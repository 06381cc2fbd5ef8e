import Seev.Payin.Proof.Command

/-!
# Payin credits what the vendor reported settled

A callback is held against its intent before anything is stored, and only a settled one
that matched goes on to the post step. The row it leaves behind does not say whether the
vendor reported the money settled, and a replay posts any row that is not posted yet.

* `posts_reported_settled`: every posted event was reported settled, in every run in which
  replays are of such events only and a vendor's event id keeps its reference.
* `replay_posts_unsettled`: the replay of an event the vendor never reported settled.
-/

namespace Seev.Payin

open Lib
open Ledger (UUID Decimal Text)

variable {E : Env} {w : World} {e : Event} {db : Db} {now : ℕ} {T : Text} {R R' : List Report} {s s' : Session}
  {ev : WebhookEvent}

/-! ## Reports -/

/-- The callback agrees with the intent: reference, vendor, amount and currency. -/
@[mk_iff]
structure Report.Matches (T : Text) (rep : Report) : Prop where
  parsed : checkCallback T rep.cb = .ok rep.amount
  reference : rep.intent.reference = rep.cb.externalReference
  vendor : rep.intent.vendor = rep.cb.vendor
  amount : rep.amount = rep.intent.totalDebit
  currency : rep.cb.currency = rep.intent.currency

instance (T : Text) (rep : Report) : Decidable (rep.Matches T) :=
  decidable_of_iff _ (Report.matches_iff T rep).symm

theorem normalizeFinancials_reference (i : TopupIntent) : i.normalizeFinancials.reference = i.reference := by
  unfold TopupIntent.normalizeFinancials
  dsimp only
  split <;> split <;> split <;> rfl

theorem normalizeFinancials_status (i : TopupIntent) : i.normalizeFinancials.status = i.status := by
  unfold TopupIntent.normalizeFinancials
  dsimp only
  split <;> split <;> split <;> rfl

theorem getTopupIntentByReference_reference {reference : String} {i : TopupIntent}
    (h : db.getTopupIntentByReference reference = some i) : i.reference = reference := by
  obtain ⟨r, hr, rfl⟩ := Option.map_eq_some_iff.1 h
  have hfound := List.find?_some hr
  rw [normalizeFinancials_reference]
  simpa using hfound

theorem unmatchedReason_eq_empty {cb : Callback} {amount : Decimal} {i : TopupIntent}
    (h : unmatchedReason now cb amount (some i) = "") :
    i.vendor = cb.vendor ∧ i.status = .pending ∧ i.totalDebit = amount ∧ i.currency = cb.currency := by
  unfold unmatchedReason at h
  dsimp only at h
  split at h
  · exact absurd h (by decide)
  rename_i hvendor
  split at h
  · exact absurd (congrArg String.length h) (by simp [String.length_append])
  rename_i hpending
  split at h
  · exact absurd h (by decide)
  split at h
  · exact absurd h (by decide)
  rename_i hamount
  rw [not_or, not_not, not_not] at hamount
  exact ⟨not_not.1 hvendor, not_not.1 hpending, hamount⟩

/-- What `correlate` keeps of the callback, and the match it found when it gives no reason. -/
theorem correlate_ok (now : ℕ) (id : UUID) (cb : Callback) (amount : Decimal) (intent : Option TopupIntent) :
    (correlate now id cb amount intent).1.vendor = cb.vendor ∧
      (correlate now id cb amount intent).1.vendorEventID = cb.vendorEventID ∧
      (correlate now id cb amount intent).1.externalRef = cb.externalReference ∧
      ((correlate now id cb amount intent).2 = "" →
        ∃ i, intent = some i ∧ unmatchedReason now cb amount (some i.normalizeFinancials) = "") := by
  unfold correlate
  cases intent with
  | none => exact ⟨rfl, rfl, rfl, fun h => absurd h (by simp [unmatchedReason])⟩
  | some i =>
    dsimp only [Option.map_some]
    split
    case isTrue h => exact ⟨rfl, rfl, rfl, fun _ => ⟨i, rfl, h⟩⟩
    case isFalse h => exact ⟨rfl, rfl, rfl, fun h' => absurd h' h⟩

/-! ## Callbacks on their way -/

/-- What a callback has established when it stands before its next statement; `R` are the
matches on record. -/
def Session.Correlated (T : Text) (R : List Report) : Session → Prop
  | .lookupGateway cb amount | .lookupIntent cb amount _ => checkCallback T cb = .ok amount
  | .matchIntent cb amount _ intent =>
    checkCallback T cb = .ok amount ∧ ∀ i, intent = some i → i.reference = cb.externalReference
  | .persist cb event _ reason =>
    event.vendor = cb.vendor ∧ event.vendorEventID = cb.vendorEventID ∧
      event.externalRef = cb.externalReference ∧ (reason = "" → ∃ rep ∈ R, rep.cb = cb ∧ rep.Matches T)
  | _ => True

theorem Session.Correlated.of_isTopup (h : s.isTopup = true) :
    s.Correlated T R := by
  cases s <;> trivial

theorem Session.Correlated.mono (h : s.Correlated T R) (hR : ∀ rep ∈ R, rep ∈ R') : s.Correlated T R' := by
  cases s <;> try exact h
  case persist cb event gateway reason =>
    obtain ⟨h1, h2, h3, h4⟩ := h
    refine ⟨h1, h2, h3, fun hr => ?_⟩
    obtain ⟨rep, hrep, hm⟩ := h4 hr
    exact ⟨rep, hR rep hrep, hm⟩

/-! ## What is on record after an event -/

@[simp] theorem proceed_reports (w : World) (sid : SessionID) (n : Next) :
    (w.proceed sid n).reports = w.reports := by
  cases n <;> rfl

@[simp] theorem start_reports (w : World) (sid : SessionID) (first : Except Failure Session) :
    (w.start sid first).reports = w.reports := by
  rcases start_cases w sid first with heq | ⟨n, heq, -⟩ <;> rw [heq]
  exact proceed_reports w sid n

/-- The session that takes a statement when `e` happens. -/
def World.acting (w : World) : Event → Option Session
  | .advance sid _ => w.sessions sid
  | _ => none

/-- An event puts the match of the acting session on record, if it is one, and nothing else. -/
theorem step_reports :
    (w.step E e).reports = w.reports ++ ((w.acting e).map (World.report w.now)).getD [] := by
  cases e with
  | advance sid id =>
    simp only [World.step, World.acting]
    cases hs : w.sessions sid with
    | none => simp
    | some s =>
      simp only [Option.map_some, Option.getD_some]
      unfold World.advance
      split
      case h_1 c ev f => split <;> simp [World.report]
      case h_2 c ev i => split <;> simp [World.report]
      case h_3 => rfl
  | fail | screened | ledger | consumed =>
    simp only [World.step, World.acting]
    split <;> simp
  | _ => simp [World.step, World.acting]

theorem reports_mono {rep : Report} (h : rep ∈ w.reports) : rep ∈ (w.step E e).reports := by
  rw [step_reports]
  exact List.mem_append_left _ h

/-- Every session stands where its callback brought it. -/
def Correlated (E : Env) (w : World) : Prop :=
  ∀ sid s, w.sessions sid = some s → s.Correlated E.text w.reports

theorem Correlated.step (h : Correlated E w) (e : Event) : Correlated E (w.step E e) := by
  intro sid s' hs'
  have hmono : ∀ rep ∈ w.reports, rep ∈ (w.step E e).reports := fun rep hrep => reports_mono hrep
  rcases step_turn hs' with hs | hf | ⟨s, hs, ht⟩
  · exact (h sid s' hs).mono hmono
  · cases hf with
    | callback _ hcb => exact hcb
    | _ => trivial
  · have hs₀ := h sid s hs
    cases ht with
    | waits => exact hs₀.mono hmono
    | unmapped => exact ⟨rfl, rfl, rfl, fun h => absurd h (by decide)⟩
    | mapped => exact hs₀
    | found => exact ⟨hs₀, fun i hi => getTopupIntentByReference_reference hi⟩
    | @matched cb amount gateway intent n he =>
      obtain ⟨h1, h2, h3, h4⟩ := correlate_ok w.now n cb amount intent
      refine ⟨h1, h2, h3, fun hr => ?_⟩
      obtain ⟨i, rfl, hmatch⟩ := h4 hr
      obtain ⟨hvendor, -, hamount, hcurrency⟩ := unmatchedReason_eq_empty hmatch
      refine ⟨⟨cb, amount, i.normalizeFinancials⟩, ?_, rfl, hs₀.1, ?_, hvendor, hamount.symm, hcurrency.symm⟩
      · rw [step_reports, he]
        simp [World.acting, hs, World.report, hmatch]
      · exact (normalizeFinancials_reference i).trans (hs₀.2 i rfl)
    | topup ht => exact .of_isTopup ht
    | _ => trivial

/-! ## The condition and the law -/

/-- A settled callback of the event matched the intent of the event's reference. -/
def SettledReport (T : Text) (R : List Report) (ev : WebhookEvent) : Prop :=
  ∃ rep ∈ R, rep.Matches T ∧ rep.cb.status = "settled" ∧ rep.cb.vendor = ev.vendor ∧
    rep.cb.vendorEventID = ev.vendorEventID ∧ rep.intent.reference = ev.externalRef

instance (T : Text) (R : List Report) (ev : WebhookEvent) : Decidable (SettledReport T R ev) :=
  inferInstanceAs (Decidable (∃ rep ∈ R, _))

/-- What keeps the acting session from a post the vendor did not report: a replay finds an
event that was reported settled, and a settled callback finds a row with its own reference.
Rows without an owner and rows that are posted cannot be posted. -/
def Session.Vouched (T : Text) (R : List Report) (db : Db) : Session → Prop
  | .load id => ∀ ev ∈ db.get id, ev.status ≠ .posted → ev.owned → SettledReport T R ev
  | .persist cb _ _ _ =>
    cb.status = "settled" → ∀ ev ∈ db.getByVendorEventID cb.vendor cb.vendorEventID,
      ev.status = .received → ev.owned → ev.externalRef = cb.externalReference
  | _ => True

instance (T : Text) (R : List Report) (db : Db) : (s : Session) → Decidable (s.Vouched T R db)
  | .load id => inferInstanceAs (Decidable (∀ ev ∈ db.get id, _ → _ → SettledReport T R ev))
  | .persist cb _ _ _ =>
    inferInstanceAs (Decidable (cb.status = "settled" →
      ∀ ev ∈ db.getByVendorEventID cb.vendor cb.vendorEventID, _ → _ → ev.externalRef = cb.externalReference))
  | .lookupGateway .. | .lookupIntent .. | .matchIntent .. | .record .. | .route .. | .begin .. | .screen ..
  | .block .. | .post .. | .await .. | .finalize .. | .settle .. | .reject .. | .insertTopup ..
  | .insertMerchantTopup .. | .recoverTopup .. | .completeTopup .. | .consumeQuote .. | .saveSnapshot ..
  | .getTopup .. | .expireTopup .. => .isTrue trivial

/-- The acting session is vouched for. -/
def Vouched (E : Env) (w : World) (e : Event) : Prop :=
  ∀ s ∈ w.acting e, s.Vouched E.text w.reports w.db

instance (E : Env) (w : World) (e : Event) : Decidable (Vouched E w e) :=
  inferInstanceAs (Decidable (∀ s ∈ w.acting e, s.Vouched E.text w.reports w.db))

theorem SettledReport.mono (h : SettledReport T R ev) (hR : ∀ rep ∈ R, rep ∈ R') : SettledReport T R' ev := by
  obtain ⟨rep, hrep, hm⟩ := h
  exact ⟨rep, hR rep hrep, hm⟩

/-- An event that gets in hand under the condition was reported settled. -/
theorem Enters.settledReport (h : Enters w.db s ev)
    (hcor : s.Correlated E.text w.reports) (hv : s.Vouched E.text w.reports w.db) (howned : ev.owned = true) :
    SettledReport E.text w.reports ev := by
  cases h with
  | replay hget hopen => exact hv ev hget hopen howned
  | callback hst hp hrec =>
    obtain ⟨-, hvendor, hid, hrow⟩ := getOrInsert_ok hp
    obtain ⟨hcv, hci, hcr, hrep⟩ := hcor
    obtain ⟨rep, hmem, rfl, hm⟩ := hrep rfl
    rw [hcv, hci] at hrow
    -- the row that came back is under the callback's reference, new or stored
    have href : ev.externalRef = rep.cb.externalReference := by
      rcases hrow with hrow | hrow
      · exact hv hst ev hrow hrec howned
      · rw [hrow.1, hcr]
    exact ⟨rep, hmem, hm, hst, (hvendor.trans hcv).symm, (hid.trans hci).symm, hm.reference.trans href.symm⟩

/-- **Payin posts only what the vendor reported settled**, in every run in which each replay
is of an event already reported settled by a matching callback, and each redelivered event id
carries the reference of its stored row. -/
theorem posts_reported_settled (E : Env) (db : Db) (now : ℕ) (es : List Event)
    (h : Along (World.step E) (Vouched E) (.idle db now) es) :
    ∀ r ∈ (run (World.step E) (.idle db now) es).ledger.performed,
      SettledReport E.text (run (World.step E) (.idle db now) es).reports r.event := by
  generalize hw : run (World.step E) (.idle db now) es = w
  have hsound : Sound E w := hw ▸ run_inv (fun w e hw => hw.step e) (Sound.idle E db now) es
  -- along the run, every event in hand with an owner was reported settled
  have hreported : Correlated E w ∧ ∀ ev, InHand w ev → ev.owned = true → SettledReport E.text w.reports ev := by
    rw [← hw]
    refine run_inv_of_along
      (I := fun w => Correlated E w ∧ ∀ ev, InHand w ev → ev.owned = true → SettledReport E.text w.reports ev)
      ?_ ?_ h
    · rintro w e ⟨hcor, hrep⟩ hc
      refine ⟨hcor.step e, fun ev hev howned => ?_⟩
      rcases inHand_step hev with hev | ⟨sid, s, id, rfl, hs, hent⟩
      · exact (hrep ev hev howned).mono fun rep h => reports_mono h
      · exact (hent.settledReport (hcor sid s hs) (hc s hs) howned).mono fun rep h => reports_mono h
    · refine ⟨fun sid s hs => by simp [World.idle] at hs, fun ev hev => ?_⟩
      cases hev with
      | session hs _ => simp [World.idle] at hs
      | sent hs _ => simp [World.idle, Server.empty] at hs
  intro r hr
  have hcall := hsound.server.done r hr
  exact hreported.2 r.event (.sent hcall rfl) ((hsound.built _ hcall).owned (hsound.owned r hr))

namespace Sample

/-- A settled callback the ledger refuses, and the replay of its event afterwards. -/
def replayedSettled : List Event :=
  upToSend 1 10 (callback "e1" "settled") ++
    [.ledger 0 (.refuse ⟨some "ACCOUNT_SUSPENDED", "suspended"⟩), .advance 1 0, .advance 1 0] ++
    [.replay 2 10, .advance 2 0, .advance 2 0, .advance 2 0, .screened 2 .allow, .advance 2 0, .ledger 1 .accept]

/-- A callback that is not settled, and the replay of the event it leaves behind. -/
def replayedPending : List Event :=
  .callback 1 (callback "e1" "pending") :: List.replicate 5 (.advance 1 10) ++
    [.replay 2 10, .advance 2 0, .advance 2 0, .advance 2 0, .screened 2 .allow, .advance 2 0, .ledger 0 .accept]

end Sample

set_option maxRecDepth 20000 in
/-- The replay of a settled event meets the condition and posts. -/
theorem posts_reported_settled_replayed :
    Along (World.step Sample.env) (Vouched Sample.env) (.idle Sample.db 0) Sample.replayedSettled ∧
      (run (World.step Sample.env) (.idle Sample.db 0) Sample.replayedSettled).ledger.performed.length = 1 ∧
      ∀ r ∈ (run (World.step Sample.env) (.idle Sample.db 0) Sample.replayedSettled).ledger.performed,
        SettledReport Sample.env.text
          (run (World.step Sample.env) (.idle Sample.db 0) Sample.replayedSettled).reports r.event :=
  have h : Along (World.step Sample.env) (Vouched Sample.env) (.idle Sample.db 0) Sample.replayedSettled := by
    decide +kernel
  ⟨h, by decide +kernel, posts_reported_settled Sample.env Sample.db 0 Sample.replayedSettled h⟩

set_option maxRecDepth 20000 in
/-- **A replay posts an event the vendor never reported settled**: the only callback had
another status, and its row was marked failed. -/
theorem replay_posts_unsettled :
    (run (World.step Sample.env) (.idle Sample.db 0) Sample.replayedPending).ledger.performed.length = 1 ∧
      ∀ rep ∈ (run (World.step Sample.env) (.idle Sample.db 0) Sample.replayedPending).reports,
        rep.cb.status = "pending" := by
  decide +kernel

end Seev.Payin
