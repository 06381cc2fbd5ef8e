import Seev.Payout.Proof.Origin

/-!
# The vendors of a request

A request's row, its commands, the sessions that work on it and the calls of `Submit`
each name a vendor of the request. `Named Q` says that `Q` holds of all of them; its step
lemma asks for `Q` only where a name is new, at the insert of a row and at the vendor a
failover moves the row to.

* `Knows`: every vendor named for a request is the one of its row or has rejected it.
* `one_vendor_pays`: at most one vendor accepts a request.
-/

namespace Seev.Payout

open Lib
open Ledger (UUID Decimal Currency FeeQuote)

variable {E : Env} {w : World} {e : Event} {sid : SessionID} {s s' : Session} {id : UUID} {v v' : String}
  {r req : PayoutRequest} {p p' : Phase}

/-! ## Rows -/

theorem get_eq_some {db : Db} (h : db.get id = some r) : r ∈ db.requests.1 ∧ r.id = id :=
  ⟨List.mem_of_find?_eq_some h, by simpa using List.find?_some h⟩

theorem insert_mem {db db' : Db} {now : ℕ} (h : db.insert now req = .ok db') :
    ∃ r ∈ db'.requests.1, r.id = req.id ∧ r.vendor = req.vendor := by
  obtain ⟨_, rfl⟩ := setRequests_eq_ok.1 h
  exact ⟨_, List.mem_append_right _ List.mem_cons_self, rfl, rfl⟩

/-- The row `insertMerchant` returns is the one it inserted, or an older one. -/
theorem insertMerchant_mem {db db' : Db} {now : ℕ} {stored : PayoutRequest}
    (h : db.insertMerchant now req = .ok (db', stored)) :
    (stored ∈ db'.requests.1 ∧ stored.id = req.id ∧ stored.vendor = req.vendor) ∨ stored ∈ db.requests.1 := by
  unfold Db.insertMerchant at h
  split at h
  · cases h
  · split at h
    · rename_i hfind
      cases h
      exact .inr (List.mem_of_find?_eq_some hfind)
    · obtain ⟨_, hset, h⟩ := bind_eq_ok.1 h
      cases h
      obtain ⟨_, rfl⟩ := setRequests_eq_ok.1 hset
      exact .inl ⟨List.mem_append_right _ List.mem_cons_self, rfl, rfl⟩

/-- The primary key. -/
theorem row_unique {r' : PayoutRequest} (hr : r ∈ w.tables.db.requests.1) (hr' : r' ∈ w.tables.db.requests.1)
    (h : r.id = r'.id) : r = r' :=
  List.inj_on_of_nodup_map w.tables.db.requests.2.primary_key hr hr' h

/-! ## Every name of a vendor -/

/-- The request a statement works on, with the vendor it names for it. -/
def Phase.names : Phase → Option (UUID × String)
  | .consumeQuote req _ | .setQuotedFee req .. | .postHold req | .awaitHold req _ | .holdTx req | .toHeld req _
  | .getLive req | .hasDead req | .ensure req | .query req | .recordQuery req _ | .pollGateway req _
  | .retryLive req => some (req.id, req.vendor)
  | .enqueue id vendor => some (id, vendor)
  | .dispatch cmd => some (cmd.payoutRequestID, cmd.vendor)
  | .submit cmd req | .awaitSubmit cmd req | .recordCall cmd req _ | .setSubmitError cmd req _
  | .listCalls cmd req _
  | .listTried cmd req _ | .routeFailover cmd req .. | .failover cmd req _ | .rejectGateway cmd req _
  | .acceptGateway cmd req _ | .toVendorPending cmd req _ => some (req.id, cmd.vendor)
  | _ => none

/-- `Q` holds of the request and the vendor a statement names. -/
def Phase.Names (Q : UUID → String → Prop) (p : Phase) : Prop := ∀ id v, p.names = some (id, v) → Q id v

/-- `Q` holds of every request and every vendor named for it. -/
structure Named (Q : UUID → String → Prop) (w : World) : Prop where
  rows : ∀ r ∈ w.tables.db.requests.1, Q r.id r.vendor
  commands : ∀ c ∈ w.tables.db.commands.1, Q c.payoutRequestID c.vendor
  sessions : ∀ sid s, w.sessions sid = some s → s.Sat (Phase.Names Q)
  sent : ∀ x ∈ w.sent, Q x.2 x.1

theorem Named.idle (Q : UUID → String → Prop) (rules : List RoutingRule) (gateways : String → Option String)
    (quotes : UUID → Option FeeQuote) (now : ℕ) : Named Q (World.idle rules gateways quotes now) where
  rows := fun r h => by simp [World.idle] at h
  commands := fun c h => by simp [World.idle] at h
  sessions := fun sid s h => by simp [World.idle] at h
  sent := fun x h => by simp [World.idle] at h

theorem Phase.Names.of_inert {Q : UUID → String → Prop} (h : p.inert = true) : p.Names Q := by
  intro id v hn
  cases p <;> cases h <;> cases hn

/-- A name that only passes from one statement to the next. -/
theorem Phase.Names.of_eq {Q : UUID → String → Prop} (h : p.Names Q) (heq : p'.names = p.names) :
    p'.Names Q := fun id v hn => h id v (heq ▸ hn)

theorem Phase.Names.none {Q : UUID → String → Prop} (h : p.names = none) : p.Names Q := by
  intro id v hn
  rw [h] at hn
  cases hn

theorem Phase.Names.some {Q : UUID → String → Prop} (h : p.names = some (id, v)) (hQ : Q id v) :
    p.Names Q := by
  intro id' v' hn
  rw [h] at hn
  cases hn
  exact hQ

section Step

variable {Q Q' : UUID → String → Prop} (hI : Fresh w) (h : Named Q w) (mono : ∀ id v, Q id v → Q' id v)
  (inserted : ∀ sid s r, w.sessions sid = some s → Inserts w.now s.phase r →
    r ∈ (w.step E e).tables.db.requests.1 → Q' r.id r.vendor)
  (moved : ∀ sid job cmd req nextVendor, w.sessions sid = some ⟨job, .failover cmd req nextVendor⟩ →
    ∀ r ∈ (w.step E e).tables.db.requests.1, r.id = req.id → r.vendor = nextVendor → Q' r.id r.vendor)

include h mono inserted moved

theorem Named.rows_step (hr : r ∈ (w.step E e).tables.db.requests.1) : Q' r.id r.vendor := by
  rcases step_rows hr with hold | ⟨sid, s, -, hs, ⟨r0, hr0, hrw⟩ | hins⟩
  · exact mono _ _ (h.rows r hold)
  · rcases hrw.vendor_eq with hv | ⟨cmd, req, nextVendor, hp, hid, -, heq⟩
    · rw [hrw.id_eq, hv]
      exact mono _ _ (h.rows r0 hr0)
    · obtain ⟨job, p⟩ := s
      cases hp
      exact moved sid job cmd req nextVendor hs r hr (by rw [heq]; exact hid) (by rw [heq])
  · exact inserted sid s r hs hins hr

theorem Named.commands_step {c : VendorCommand} (hc : c ∈ (w.step E e).tables.db.commands.1) :
    Q' c.payoutRequestID c.vendor := by
  rcases step_commands hc with ⟨c0, hc0, hcore, -⟩ | ⟨sid, s, -, hs, henq, r, hr, hid, hv⟩
  · simp only [VendorCommand.core, Prod.mk.injEq] at hcore
    rw [hcore.2.1, hcore.2.2.1]
    exact mono _ _ (h.commands c0 hc0)
  · have hnames := (h.sessions sid s hs).1
    obtain ⟨job, p⟩ := s
    generalize hid' : c.payoutRequestID = id at henq hid ⊢
    generalize hv' : c.vendor = v at henq hv ⊢
    cases henq with
    | initial | recovered => exact mono _ _ (hnames _ _ rfl)
    | failover =>
      -- the command has the vendor its request was moved to
      have hQ := h.rows_step mono inserted moved hr
      rw [hid, hv ⟨_, _, _, rfl⟩] at hQ
      exact hQ

include hI

theorem Named.flow {job : Job} (hs : w.sessions sid = some ⟨job, p⟩) (hflow : Flow E w e p p')
    (hp : p.Names Q') : p'.Names Q' := by
  have row : ∀ r ∈ (w.step E e).tables.db.requests.1, Q' r.id r.vendor :=
    fun r hr => h.rows_step mono inserted moved hr
  cases hflow with
  | stays => exact hp
  | inert hinert => exact .of_inert hinert
  | inserted hins hafter =>
    obtain ⟨r, hr, hid, hv⟩ := insert_mem hins
    exact .some rfl (hid ▸ hv ▸ row r (hafter ▸ hr))
  | insertedQuoted hins hafter =>
    obtain ⟨r, hr, hid, hv⟩ := insert_mem hins
    exact .some rfl (hid ▸ hv ▸ row r (hafter ▸ hr))
  | insertedMerchant hins hafter hsame =>
    rcases insertMerchant_mem hins with ⟨hr, hid, hv⟩ | hold
    · exact .some rfl (hid ▸ hv ▸ row _ (hafter ▸ hr))
    · -- the stored row is not older: its id was drawn by this call
      exact absurd (congrArg Option.some hsame.symm) (hI.absent sid _ hs _ hold)
  | dispatched hget =>
    refine .some rfl ?_
    rw [(get_eq_some hget).2]
    exact hp _ _ rfl
  | retryLoaded hget => exact .some rfl (mono _ _ (h.rows _ (get_eq_some hget).1))
  | consumed | quoted | sentHold | heldAnswer | heldTx | held | submits | submitted | uncertain | rejected
  | accepted | mayFailover | tried | routedFailover | noRoute | pends | noLive | notDead | queried
  | recordedQuery | retries => exact hp.of_eq rfl
  | _ => exact .none rfl

/-- **Step lemma.** A property of every named vendor is kept if it holds of the row a
call inserts and of the vendor a failover moves a row to. -/
theorem Named.step : Named Q' (w.step E e) where
  rows := fun _ hr => h.rows_step mono inserted moved hr
  commands := fun _ hc => h.commands_step mono inserted moved hc
  sessions := fun sid s' hs' => by
    refine (step_sessions hs').sat
      (fun s hs => (h.sessions sid s hs).mono fun p hp id v hn => mono id v (hp id v hn))
      (fun s hf => ?_) (fun c ⟨c0, hc0, hcore⟩ => ?_) (fun stage _ _ r _ hr _ => ?_) (.none rfl)
      (fun p p' job hs hflow hp => h.flow hI mono inserted moved hs hflow hp)
    · cases hf with
      | resume => exact ⟨.none rfl, fun r hr => absurd hr List.not_mem_nil⟩
      | _ => exact ⟨.none rfl, trivial⟩
    · simp only [VendorCommand.core, Prod.mk.injEq] at hcore
      refine .some rfl ?_
      rw [← hcore.2.1, ← hcore.2.2.1]
      exact mono _ _ (h.commands c0 hc0)
    · exact .some (by cases stage <;> rfl) (mono _ _ (h.rows r hr))
  sent := fun x hx => by
    rcases step_sent hx with hx | ⟨sid, job, cmd, req, hs, rfl⟩
    · exact mono _ _ (h.sent x hx)
    · exact mono _ _ ((h.sessions sid _ hs).1 _ _ rfl)

end Step

/-! ## Answers -/

/-- A `Submit` of the request reached the vendor, which accepts it. -/
def World.Accepted (E : Env) (w : World) (vendor : String) (id : UUID) : Prop :=
  (vendor, id) ∈ w.reached ∧ E.accepts vendor id = true

instance (w : World) (vendor : String) (id : UUID) : Decidable (w.Accepted E vendor id) :=
  inferInstanceAs (Decidable (_ ∧ _))

theorem World.Accepted.step (h : w.Accepted E v id) : (w.step E e).Accepted E v id := ⟨reached_step h.1, h.2⟩

/-- What a relay knows of its vendor's answer. -/
def Phase.Answered (E : Env) (w : World) : Phase → Prop
  | .recordCall cmd req (.ok result) =>
    (result.status = .failed → E.accepts cmd.vendor req.id = false) ∧
      (result.status = .settled ∨ result.status = .pending → w.Accepted E cmd.vendor req.id)
  | .acceptGateway cmd req result =>
    result.status = .settled ∨ result.status = .pending → w.Accepted E cmd.vendor req.id
  | .toVendorPending cmd req _ => w.Accepted E cmd.vendor req.id
  | .listCalls cmd req _ | .listTried cmd req _ | .routeFailover cmd req .. | .failover cmd req _
  | .rejectGateway cmd req _ => E.accepts cmd.vendor req.id = false
  | .closeLoad (.cancel _) (.relay cmd) id _ => E.accepts cmd.vendor id = false
  | .closePost (.cancel _) (.relay cmd) req .. => E.accepts cmd.vendor req.id = false
  | _ => True

theorem Phase.Answered.step (h : p.Answered E w) : p.Answered E (w.step E e) := by
  unfold Phase.Answered at h ⊢
  split at h
  case h_1 => exact ⟨h.1, fun hst => (h.2 hst).step⟩
  case h_2 => exact fun hst => (h hst).step
  case h_3 => exact h.step
  all_goals exact h

theorem consistent_failed {reached : Bool} {result : PayoutResult}
    (h : E.consistent v id reached (.ok result) = true) (hst : result.status = .failed) :
    E.accepts v id = false := by
  simp only [Env.consistent, hst, Bool.and_eq_true, Bool.not_eq_true'] at h
  exact h.2

theorem consistent_accepted {result : PayoutResult}
    (h : E.consistent v id (decide ((v, id) ∈ w.reached)) (.ok result) = true)
    (hst : result.status = .settled ∨ result.status = .pending) : w.Accepted E v id := by
  rcases hst with hst | hst <;>
  · simp only [Env.consistent, hst, Bool.and_eq_true, decide_eq_true_eq] at h
    exact h

theorem Flow.answered (h : Flow E w e p p') (hp : p.Answered E (w.step E e)) :
    p'.Answered E (w.step E e) := by
  cases h with
  | stays | mayFailover | tried | routedFailover | noRoute | cancels => exact hp
  | @inert _ p' hinert => cases p' <;> trivial
  | @submitted cmd req answer hc =>
    cases answer with
    | error text => trivial
    | ok result => exact ⟨consistent_failed hc, fun hst => (consistent_accepted hc hst).step⟩
  | rejected hst => exact hp.1 hst
  | accepted => exact hp.2
  | pends hst => exact hp (.inr hst)
  | @loadedCancel reason c id gateway req hget =>
    cases c with
    | relay cmd =>
      show E.accepts cmd.vendor req.id = false
      rw [(get_eq_some hget).2]
      exact hp
    | _ => trivial
  | @callbackCloses cb req gateway =>
    unfold Session.callbackClosing
    split <;> trivial
  | _ => trivial

theorem answered_step (h : ∀ sid s, w.sessions sid = some s → s.Sat (Phase.Answered E w))
    (hs' : (w.step E e).sessions sid = some s') : s'.Sat (Phase.Answered E (w.step E e)) := by
  refine (step_sessions hs').sat (fun s hs => (h sid s hs).mono fun p => Phase.Answered.step)
    (fun s hf => ?_) (fun c _ => trivial) (fun stage _ _ r _ _ _ => ?_) trivial
    (fun p p' job _ hflow hp => hflow.answered hp)
  · cases hf with
    | resume => exact ⟨trivial, fun r hr => absurd hr List.not_mem_nil⟩
    | _ => exact ⟨trivial, trivial⟩
  · cases stage <;> trivial

/-! ## One vendor -/

/-- The vendor is the one of the request's row, or it rejects the request. -/
def Knows (E : Env) (w : World) (id : UUID) (v : String) : Prop :=
  ∃ r ∈ w.tables.db.requests.1, r.id = id ∧ (r.vendor = v ∨ E.accepts v id = false)

/-- What holds of the vendors of every request in every run. -/
structure Paying (E : Env) (w : World) : Prop where
  fresh : Fresh w
  answered : ∀ sid s, w.sessions sid = some s → s.Sat (Phase.Answered E w)
  named : Named (Knows E w) w
  reached : ∀ x ∈ w.reached, x ∈ w.sent

theorem Paying.idle (E : Env) (rules : List RoutingRule) (gateways : String → Option String)
    (quotes : UUID → Option FeeQuote) (now : ℕ) : Paying E (World.idle rules gateways quotes now) where
  fresh := .idle ..
  answered := fun sid s h => by simp [World.idle] at h
  named := .idle ..
  reached := fun x h => by simp [World.idle] at h

/-- A failover moves a request on from a vendor that rejected it. -/
theorem Paying.knows_step (hI : Paying E w) (h : Knows E w id v) : Knows E (w.step E e) id v := by
  obtain ⟨r, hr, hid, hv⟩ := h
  rcases step_rows_image (E := E) (e := e) hr with hr' | ⟨sid, s, r', -, hs, hr', hrw⟩
  · exact ⟨r, hr', hid, hv⟩
  · refine ⟨r', hr', hrw.id_eq.trans hid, ?_⟩
    rcases hrw.vendor_eq with hsame | ⟨cmd, req, nextVendor, hp, hreq, hcur, -⟩
    · rw [hsame]
      exact hv
    · have hrej := (hI.answered sid s hs).1
      rw [hp] at hrej
      have hrej : E.accepts cmd.vendor req.id = false := hrej
      rcases hv with rfl | hv
      · rw [← hid, hcur, hreq]
        exact .inr hrej
      · exact .inr hv

/-- **Every vendor named for a request is its row's or has rejected it**, after every event. -/
theorem Paying.step (hI : Paying E w) (e : Event) : Paying E (w.step E e) where
  fresh := hI.fresh.step
  answered := fun _ _ h => answered_step hI.answered h
  named := hI.named.step hI.fresh (fun _ _ => hI.knows_step) (fun _ _ r _ _ hr => ⟨r, hr, rfl, .inl rfl⟩)
    fun _ _ _ _ _ _ r hr _ _ => ⟨r, hr, rfl, .inl rfl⟩
  reached := fun x hx => by
    rcases step_reached hx with hx | hx
    · exact sent_step (hI.reached x hx)
    · exact sent_step hx

/-- A vendor that accepted a request is the one of its row. -/
theorem Paying.row_of_accepted (hI : Paying E w) (h : w.Accepted E v id) :
    ∃ r ∈ w.tables.db.requests.1, r.id = id ∧ r.vendor = v := by
  obtain ⟨r, hr, hid, hv | hrej⟩ := hI.named.sent _ (hI.reached _ h.1)
  · exact ⟨r, hr, hid, hv⟩
  · have hacc := h.2
    simp only at hrej
    rw [hrej] at hacc
    cases hacc

theorem Paying.run (E : Env) (rules : List RoutingRule) (gateways : String → Option String)
    (quotes : UUID → Option FeeQuote) (now : ℕ) (es : List Event) :
    Paying E (Lib.run (World.step E) (World.idle rules gateways quotes now) es) :=
  run_inv (I := Paying E) (fun _ e hI => hI.step e) (.idle ..) es

/-- **At most one vendor pays a payout**, in every run. -/
theorem one_vendor_pays (E : Env) (rules : List RoutingRule) (gateways : String → Option String)
    (quotes : UUID → Option FeeQuote) (now : ℕ) (es : List Event) (id : UUID) (v v' : String)
    (h : (Lib.run (World.step E) (World.idle rules gateways quotes now) es).Accepted E v id)
    (h' : (Lib.run (World.step E) (World.idle rules gateways quotes now) es).Accepted E v' id) : v = v' := by
  have hI := Paying.run E rules gateways quotes now es
  obtain ⟨r, hr, hid, rfl⟩ := hI.row_of_accepted h
  obtain ⟨r', hr', hid', rfl⟩ := hI.row_of_accepted h'
  rw [row_unique hr hr' (hid.trans hid'.symm)]

namespace Sample

/-- The first vendor rejects the request, and its command is failed over to the second. -/
def failedOver : List Event :=
  created 11 ++ .relay 2 .pending [11] :: submit 2 "acme" 1 .failed ++ go 2 4 ++ draw 2 12

/-- The second vendor accepts the request. -/
def acceptedBySecond : List Event := failedOver ++ .relay 3 .pending [12] :: submit 3 "zeta" 1 .pending

end Sample

set_option maxRecDepth 20000 in
/-- After a failover the vendor that accepts is the only one. -/
theorem one_vendor_pays_failedOver :
    (run (World.step Sample.env) (Sample.world ["acme", "zeta"] fun _ => none) Sample.acceptedBySecond).Accepted
        Sample.env "zeta" 1 ∧
      ∀ v, (run (World.step Sample.env) (Sample.world ["acme", "zeta"] fun _ => none)
        Sample.acceptedBySecond).Accepted Sample.env v 1 → v = "zeta" := by
  have h : (run (World.step Sample.env) (Sample.world ["acme", "zeta"] fun _ => none)
      Sample.acceptedBySecond).Accepted Sample.env "zeta" 1 := by
    decide +kernel
  exact ⟨h, fun v hv => one_vendor_pays Sample.env _ _ _ _ Sample.acceptedBySecond 1 v "zeta" hv h⟩

end Seev.Payout
