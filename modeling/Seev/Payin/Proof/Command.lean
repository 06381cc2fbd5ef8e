import Seev.Payin.Proof.Step

/-!
# The commands payin sends

A row meets the constraints of its table, so its total is not zero and
`postAndFinalize` takes the branch that reads the row's own snapshot. That branch never
learns the id of the intent: the idempotency key is always the event's (`Built.key_eq`),
and no command carries a `payin_id` (`Built.payinID`).

`Sound` is what holds in every reachable state; the claims about runs start from it.
-/

namespace Seev.Payin

open Lib
open Ledger (UUID Decimal Currency Text Command Metadata)

variable {E : Env} {w : World} {e : Event} {db : Db} {now : ℕ} {ev : WebhookEvent}

/-! ## Rows -/

theorem withDefaults_eq (h : ev.Checks) : Db.withDefaults ev = ev := by
  have htotal : ev.totalDebit ≠ 0 := by
    rw [h.total_debit_invariant.1]
    exact ne_of_gt h.amount_positive
  have happ : ev.feeApplication ≠ "" := by
    rw [h.fee_application_check]
    decide
  simp [Db.withDefaults, htotal, happ]

theorem withDefaults_identity (ev : WebhookEvent) :
    (Db.withDefaults ev).vendor = ev.vendor ∧ (Db.withDefaults ev).vendorEventID = ev.vendorEventID ∧
      (Db.withDefaults ev).externalRef = ev.externalRef := by
  unfold Db.withDefaults
  dsimp only
  refine ⟨?_, ?_, ?_⟩ <;> split <;> split <;> rfl

theorem get_checks {id : UUID} (h : db.get id = some ev) : ev.Checks := by
  obtain ⟨r, -, rfl⟩ := Option.map_eq_some_iff.1 h
  rw [withDefaults_eq r.2]
  exact r.2

/-- The row of an event, found under its vendor and the vendor's id. -/
theorem getByVendorEventID_ok {vendor vendorEventID : String}
    (h : db.getByVendorEventID vendor vendorEventID = some ev) :
    ev.Checks ∧ ev.vendor = vendor ∧ ev.vendorEventID = vendorEventID := by
  obtain ⟨r, hr, rfl⟩ := Option.map_eq_some_iff.1 h
  have hfound := List.find?_some hr
  simp only [decide_eq_true_eq] at hfound
  rw [withDefaults_eq r.2]
  exact ⟨r.2, hfound⟩

/-- `GetOrInsert` returns a row of the event's own vendor and id: the stored one, or the
event itself. -/
theorem getOrInsert_ok {event stored : WebhookEvent} {db' : Db} (h : db.getOrInsert event = .ok (db', stored)) :
    stored.Checks ∧ stored.vendor = event.vendor ∧ stored.vendorEventID = event.vendorEventID ∧
      (db.getByVendorEventID event.vendor event.vendorEventID = some stored ∨
        (stored.externalRef = event.externalRef ∧ ∀ r ∈ db.events, r.1.id ≠ stored.id)) := by
  unfold Db.getOrInsert at h
  obtain ⟨-, h⟩ := guard_eq_ok.1 h
  obtain ⟨-, h⟩ := guard_eq_ok.1 h
  split at h
  case isFalse => cases h
  case isTrue hchecks =>
    obtain ⟨hvendor, hid, href⟩ := withDefaults_identity event
    rw [hvendor, hid] at h
    split at h
    case h_1 existing hex =>
      cases h
      obtain ⟨hc, hv, hi⟩ := getByVendorEventID_ok hex
      exact ⟨hc, hv, hi, .inl hex⟩
    case h_2 =>
      obtain ⟨hnew, h⟩ := guard_eq_ok.1 h
      cases h
      refine ⟨hchecks, hvendor, hid, .inr ⟨href, fun r hr heq => hnew ?_⟩⟩
      exact List.any_eq_true.2 ⟨r, hr, decide_eq_true heq⟩

theorem Enters.checks {s : Session} (h : Enters db s ev) : ev.Checks := by
  cases h with
  | replay h _ => exact get_checks h
  | callback _ h _ => exact (getOrInsert_ok h).1

/-! ## From the row to the command -/

/-- The snapshot of a row comes from the row alone, without the intent's id. -/
theorem financials_eq {gateway : String} {f : Financials} (h : ev.Checks)
    (hf : financials db ev gateway = .ok f) :
    f = { gateway := gateway, principalAmount := ev.totalDebit - ev.feeAmount, feeAmount := ev.feeAmount
          totalDebit := ev.totalDebit, feeGateway := ev.feeGateway
          feeApplication := topupFeeApplicationAddedOnTop
          payinID := UUID.nil, feeQuoteID := ev.feeQuoteID } := by
  have htotal : ev.totalDebit ≠ 0 := by
    rw [h.total_debit_invariant.1]
    exact ne_of_gt h.amount_positive
  unfold financials at hf
  rw [if_pos htotal] at hf
  split at hf
  · cases hf
  · cases hf
    simp [h.fee_application_check]

/-- The request is what `postAndFinalize` makes of its event. -/
def Built (E : Env) (r : Request) : Prop :=
  ∃ db gateway f, financials db r.event gateway = .ok f ∧ buildCommand E.text r.event f = .ok r.cmd

theorem buildCommand_ok {T : Text} {f : Financials} {cmd : Command} (h : buildCommand T ev f = .ok cmd) :
    (cmd.idempotencyScope, cmd.idempotencyKey) = idempotency T ev f.payinID ∧
      cmd.merchantTenantID = ev.merchantTenantID ∧
      cmd.userID = (if ev.merchantTenantID ≠ UUID.nil then UUID.nil else ev.userID) ∧
      cmd.type = (if ev.merchantTenantID ≠ UUID.nil then .merchantPayinCredit else .moneyIn) ∧
      cmd.quoteID = "" ∧
      ∀ k, k ≠ .feeGateway → cmd.metadata k = commandMetadata T ev f k := by
  unfold buildCommand at h
  split at h
  · cases h
  · cases h
    refine ⟨rfl, rfl, rfl, rfl, rfl, fun k hk => ?_⟩
    dsimp only
    split
    · exact Metadata.set_of_ne _ _ hk
    · rfl

theorem setSome_of_ne {m : Metadata} {k k' : Ledger.MetaKey} (v : Option Ledger.MetaValue) (h : k' ≠ k) :
    setSome m k v k' = m k' := by
  cases v with
  | none => rfl
  | some v => exact Metadata.set_of_ne _ _ h

theorem commandMetadata_externalRef (T : Text) (f : Financials) :
    commandMetadata T ev f .externalRef = some (.str ev.externalRef) := by
  unfold commandMetadata
  rw [setSome_of_ne _ (by decide), setSome_of_ne _ (by decide)]
  simp [Metadata.set]

variable {r : Request}

/-- **The idempotency key is the event's**, never the intent's. -/
theorem Built.key_eq (h : Built E r) (hr : r.event.Checks) :
    r.key = ("payin:" ++ r.event.vendor, "payin:" ++ r.event.vendor ++ ":" ++ r.event.vendorEventID) := by
  obtain ⟨db, gateway, f, hf, hcmd⟩ := h
  rw [Request.key, (buildCommand_ok hcmd).1, financials_eq hr hf]
  simp [idempotency]

theorem Built.externalRef (h : Built E r) : r.cmd.metadata .externalRef = some (.str r.event.externalRef) := by
  obtain ⟨db, gateway, f, -, hcmd⟩ := h
  obtain ⟨-, -, -, -, -, hmeta⟩ := buildCommand_ok hcmd
  rw [hmeta _ (by decide), commandMetadata_externalRef]

/-- The event was matched with an intent, whose owner it carries. -/
def WebhookEvent.owned (ev : WebhookEvent) : Bool :=
  decide (ev.userID ≠ UUID.nil ∨ ev.merchantTenantID ≠ UUID.nil)

/-- The event of an owned command has an owner. -/
theorem Built.owned (h : Built E r) (hr : r.owned = true) : r.event.owned = true := by
  obtain ⟨db, gateway, f, -, hcmd⟩ := h
  obtain ⟨-, hmerchant, huser, -⟩ := buildCommand_ok hcmd
  simp only [Request.owned, WebhookEvent.owned, decide_eq_true_eq] at hr ⊢
  by_cases hm : r.event.merchantTenantID = UUID.nil
  · left
    rw [huser, hmerchant] at hr
    simpa [hm] using hr
  · exact .inr hm

/-! ## Reachable states -/

/-- The financials in hand are those of the event in hand. -/
def Session.Priced : Session → Prop
  | .screen _ ev f | .post _ ev f => ∃ db gateway, financials db ev gateway = .ok f
  | _ => True

theorem Session.Priced.of_isTopup {s : Session} (h : s.isTopup = true) : s.Priced := by
  cases s <;> trivial

theorem priced_step {sid : SessionID} {s' : Session} (hs' : (w.step E e).sessions sid = some s')
    (hw : ∀ s, w.sessions sid = some s → s.Priced) : s'.Priced := by
  rcases step_turn hs' with hs | hf | ⟨s, hs, ht⟩
  · exact hw s' hs
  · cases hf <;> trivial
  · cases ht with
    | waits => exact hw _ hs
    | @passed c ev f => exact hw (.screen c ev f) hs
    | screens hf | unscreened hf => exact ⟨_, _, hf⟩
    | topup ht => exact .of_isTopup ht
    | _ => trivial

/-- What holds in every reachable state. -/
structure Sound (E : Env) (w : World) : Prop where
  priced : ∀ sid s, w.sessions sid = some s → s.Priced
  checks : ∀ ev, InHand w ev → ev.Checks
  built : ∀ c ∈ w.ledger.calls, Built E c.1
  server : w.ledger.OK Request.key
  owned : ∀ r ∈ w.ledger.performed, r.owned = true

theorem Sound.idle (E : Env) (db : Db) (now : ℕ) : Sound E (.idle db now) where
  priced sid s hs := by
    simp [World.idle] at hs
  checks ev hev := by
    cases hev with
    | session h _ => simp [World.idle] at h
    | sent h _ => simp [World.idle, Server.empty] at h
  built c hc := by
    simp [World.idle, Server.empty] at hc
  server := .empty
  owned r hr := by
    simp [World.idle, Server.empty] at hr

/-- **One event keeps a world sound.** -/
theorem Sound.step (h : Sound E w) (e : Event) : Sound E (w.step E e) where
  priced sid s hs := priced_step hs (h.priced sid)
  checks ev hev := by
    rcases inHand_step hev with hev | ⟨_, _, _, _, _, hent⟩
    · exact h.checks ev hev
    · exact hent.checks
  built c hc := by
    cases step_ledger (E := E) (w := w) (e := e) with
    | same hL => exact h.built c (hL ▸ hc)
    | sends _ hs hcmd hL =>
      rw [hL] at hc
      rcases List.mem_append.1 hc with hc | hc
      · exact h.built c hc
      · cases List.mem_singleton.1 hc
        obtain ⟨db, gateway, hf⟩ := h.priced _ _ hs
        exact ⟨db, gateway, _, hf, hcmd⟩
    | serves _ hL =>
      rw [hL] at hc
      obtain ⟨c', hc', heq, -⟩ := Server.mem_calls_serve hc
      exact heq ▸ h.built c' hc'
  server := by
    cases step_ledger (E := E) (w := w) (e := e) with
    | same hL => exact hL ▸ h.server
    | sends _ _ _ hL => exact hL ▸ h.server.send _
    | serves _ hL => exact hL ▸ h.server.serve _ _
  owned r hr := by
    cases step_ledger (E := E) (w := w) (e := e) with
    | same hL => exact h.owned r (hL ▸ hr)
    | sends _ _ _ hL => exact h.owned r (by simpa [hL, Server.send] using hr)
    | serves hown hL =>
      rw [hL] at hr
      rcases Server.mem_performed_serve hr with hr | ⟨hacc, hi⟩
      · exact h.owned r hr
      · obtain ⟨c, hc, hco⟩ := hown hacc
        cases hi.symm.trans hc
        exact hco

/-- A request that was sent has an event that meets the constraints of its table. -/
theorem Sound.sent_checks (h : Sound E w) {c : Request × Option (Answer PostError)} (hc : c ∈ w.ledger.calls) :
    c.1.event.Checks :=
  h.checks _ (.sent hc rfl)

end Seev.Payin
