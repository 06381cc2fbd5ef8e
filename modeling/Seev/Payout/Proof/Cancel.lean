import Seev.Payout.Proof.Vendors

/-!
# Returning a hold

Three automatic paths cancel a payout: a relay whose command was rejected and that found
no other route, a poll of the vendor, and a vendor callback. The last two follow a report
of the vendor that accepted the payout (`Pending`). The relay decides from reads that no
lock protects: between them and the cancel, another holder of the same command may have
failed the request over to a vendor that pays.

* `hold_returned_safely`: when the request and its live command are still with the vendor
  that rejected it, no vendor may pay when the hold is returned.
* `hold_returned_superseded`: a second holder of the command returns the hold of a
  request that the next vendor has accepted.
-/

namespace Seev.Payout

open Lib
open Ledger (UUID Decimal Currency FeeQuote)

variable {E : Env} {w : World} {e : Event} {sid : SessionID} {s s' : Session} {id : UUID} {v : String}

/-! ## Reports of vendors that accepted -/

/-- What polls and callbacks know of their vendor. -/
def Phase.Reported (E : Env) (w : World) : Phase → Prop
  | .query req => w.Accepted E req.vendor req.id
  | .recordQuery req answer =>
    w.Accepted E req.vendor req.id ∧
      ∀ result, answer = .ok result → result.status = .failed → (req.vendor, req.id) ∈ w.reports
  | .pollGateway req result =>
    w.Accepted E req.vendor req.id ∧ (result.status = .failed → (req.vendor, req.id) ∈ w.reports)
  | .callbackGateway cb req =>
    w.Accepted E cb.vendor req.id ∧ (cb.status ≠ "settled" → (cb.vendor, req.id) ∈ w.reports)
  | .closeLoad (.cancel _) (.poll v) id _ | .closeLoad (.cancel _) (.callback v) id _ =>
    w.Accepted E v id ∧ (v, id) ∈ w.reports
  | .closePost (.cancel _) (.poll v) req .. | .closePost (.cancel _) (.callback v) req .. =>
    w.Accepted E v req.id ∧ (v, req.id) ∈ w.reports
  | _ => True

theorem Phase.Reported.step {p : Phase} (h : p.Reported E w) : p.Reported E (w.step E e) := by
  unfold Phase.Reported at h ⊢
  split at h
  case h_1 => exact h.step
  case h_2 => exact ⟨h.1.step, fun result ha hst => reports_step (h.2 result ha hst)⟩
  case h_3 => exact ⟨h.1.step, fun hst => reports_step (h.2 hst)⟩
  case h_4 => exact ⟨h.1.step, fun hst => reports_step (h.2 hst)⟩
  case h_9 => trivial
  all_goals exact ⟨h.1.step, reports_step h.2⟩

/-- A request that a vendor answered as pending is with that vendor, which accepted it. -/
structure Pending (E : Env) (w : World) : Prop where
  paying : Paying E w
  rows : ∀ r ∈ w.tables.db.requests.1, r.status = .vendorPending ∨ r.vendorRef.isSome = true →
    w.Accepted E r.vendor r.id
  reported : ∀ sid s, w.sessions sid = some s → s.Sat (Phase.Reported E w)

theorem Pending.idle (E : Env) (rules : List RoutingRule) (gateways : String → Option String)
    (quotes : UUID → Option FeeQuote) (now : ℕ) : Pending E (World.idle rules gateways quotes now) where
  paying := .idle ..
  rows := fun r h => by simp [World.idle] at h
  reported := fun sid s h => by simp [World.idle] at h

theorem queried_reports {answer : VendorAnswer} {job : Job} {req : PayoutRequest} {result : PayoutResult}
    (hs : w.sessions sid = some ⟨job, .query req⟩) (ha : answer = .ok result) (hst : result.status = .failed) :
    (req.vendor, req.id) ∈ (w.step E (.queried sid answer)).reports := by
  subst ha
  simp [World.step, hs, hst]

section Step

variable (hI : Pending E w)

include hI

theorem Pending.rows_step {r : PayoutRequest} (hr : r ∈ (w.step E e).tables.db.requests.1)
    (hpend : r.status = .vendorPending ∨ r.vendorRef.isSome = true) : (w.step E e).Accepted E r.vendor r.id := by
  rcases step_rows hr with hold | ⟨sid, s, -, hs, ⟨r0, hr0, hrw⟩ | hins⟩
  · exact (hI.rows r hold hpend).step
  · have hans := (hI.paying.answered sid s hs).1
    cases hrw with
    | error | quoted | submitted =>
      refine (hI.rows r0 hr0 ?_).step
      simp_all
    | rejected | held | settled | cancelled =>
      refine (hI.rows r0 hr0 (.inr ?_)).step
      simpa using hpend
    | moved hp hid hcur =>
      -- the vendor it moves on from rejected the request
      have hacc := hI.rows r0 hr0 hpend
      rw [hp] at hans
      have hrej : E.accepts _ _ = false := hans
      rw [World.Accepted, hcur, hid, hrej] at hacc
      exact absurd hacc.2 (by decide)
    | @pending cmd req vendorRef hp hid =>
      rw [hp] at hans
      obtain ⟨r1, hr1, hid1, hv1⟩ := hI.paying.row_of_accepted hans
      cases row_unique hr0 hr1 (hid.trans hid1.symm)
      show (w.step E e).Accepted E r0.vendor r0.id
      rw [hv1, hid]
      exact World.Accepted.step hans
  · obtain ⟨job, p⟩ := s
    cases hins <;> simp [Db.newRow] at hpend

theorem Pending.flow {p p' : Phase} (h : Flow E w e p p') (hp : p.Reported E (w.step E e)) :
    p'.Reported E (w.step E e) := by
  cases h with
  | stays => exact hp
  | @inert _ p' hinert => cases p' <;> trivial
  | queried he hs =>
    subst he
    obtain ⟨job, hs⟩ := hs
    exact ⟨hp, fun result ha hst => queried_reports hs ha hst⟩
  | recordedQuery => exact ⟨hp.1, fun hst => hp.2 _ rfl hst⟩
  | pollCancels hst => exact ⟨hp.1, hp.2 hst⟩
  | @callbackFound cb amount req hget hterm hrep =>
    have hrow := List.find?_some hget
    simp only [decide_eq_true_eq] at hrow
    refine ⟨?_, fun hst => hrep (hterm.resolve_left hst)⟩
    rw [← hrow.1]
    exact (hI.rows req (List.mem_of_find?_eq_some hget) (.inr (by rw [hrow.2]; rfl))).step
  | @callbackCloses cb req gateway =>
    unfold Session.callbackClosing
    split
    · trivial
    · rename_i hst
      exact ⟨hp.1, hp.2 hst⟩
  | @loadedCancel reason c id gateway req hget =>
    obtain ⟨-, rfl⟩ := get_eq_some hget
    cases c with
    | relay | admin => trivial
    | poll | callback => exact hp
  | _ => trivial

/-- **A vendor that answered pending has accepted**, after every event. -/
theorem Pending.step : Pending E (w.step E e) where
  paying := hI.paying.step e
  rows := fun _ hr hpend => hI.rows_step hr hpend
  reported := fun sid s' hs' => by
    refine (step_sessions hs').sat (fun s hs => (hI.reported sid s hs).mono fun p => Phase.Reported.step)
      (fun s hf => ?_) (fun c _ => trivial) (fun stage _ _ r _ hr hst => ?_) trivial
      (fun p p' job _ hflow hp => hI.flow hflow hp)
    · cases hf with
      | resume => exact ⟨trivial, fun r hr => absurd hr List.not_mem_nil⟩
      | _ => exact ⟨trivial, trivial⟩
    · cases stage with
      | vendorPending => exact (hI.rows r hr (.inl hst)).step
      | _ => trivial

end Step

/-! ## Who works on a request -/

/-- The request a relay works on, up to the cancel, and the vendor of its command. -/
def Phase.hand : Phase → Option (UUID × String)
  | .dispatch cmd => some (cmd.payoutRequestID, cmd.vendor)
  | .submit cmd req | .awaitSubmit cmd req | .recordCall cmd req _ | .listCalls cmd req _ | .listTried cmd req _
  | .routeFailover cmd req .. | .failover cmd req _ | .rejectGateway cmd req _ => some (req.id, cmd.vendor)
  | .closeLoad (.cancel _) (.relay cmd) id _ => some (id, cmd.vendor)
  | .closePost (.cancel _) (.relay cmd) req .. => some (req.id, cmd.vendor)
  | _ => none

/-- What a relay is to work on next. -/
def Job.hands : Job → List (UUID × String)
  | .relay rest => rest.map fun c => (c.payoutRequestID, c.vendor)
  | _ => []

/-- What a session works on, or claimed to work on. -/
def Session.hands (s : Session) : List (UUID × String) := s.phase.hand.toList ++ s.job.hands

theorem Phase.hand_of_inert {p : Phase} (h : p.inert = true) : p.hand = none := by
  cases p <;> first | rfl | cases h

theorem Flow.hand {p p' : Phase} (h : Flow E w e p p') : p'.hand = none ∨ p'.hand = p.hand := by
  cases h with
  | stays | submits | submitted | rejected | mayFailover | tried | routedFailover | noRoute | cancels =>
    exact .inr rfl
  | inert hinert => exact .inl (Phase.hand_of_inert hinert)
  | dispatched hget =>
    refine .inr ?_
    simp only [Phase.hand, (get_eq_some hget).2]
  | @loadedCancel reason c id gateway req hget =>
    cases c with
    | relay cmd =>
      refine .inr ?_
      simp only [Phase.hand, (get_eq_some hget).2]
    | _ => exact .inl rfl
  | callbackCloses =>
    unfold Session.callbackClosing
    split <;> exact .inl rfl
  | _ => exact .inl rfl

theorem Job.advance_hands {job : Job} (h : job.advance.getLeft? = some s') : s'.hands = job.hands := by
  cases job with
  | single => cases h
  | relay rest =>
    cases rest with
    | nil => cases h
    | cons c cs =>
      cases h
      rfl
  | resume stage cutoff rest n m => cases rest <;> cases stage <;> cases h <;> rfl

/-- After a statement a session works on what it worked on, or on less; after a failover it
is done with the request. -/
theorem leads_hands {n : Next} (hflow : ∀ p, n = .goto p → Flow E w e s.phase p) (hl : n.leads s = some s') :
    s'.hands.Sublist s.hands ∧
      ∀ cmd req v, s.phase = .failover cmd req v → s'.hands.Sublist s.job.hands := by
  have hdone : s'.hands = s.job.hands → s'.hands.Sublist s.hands ∧
      ∀ cmd req v, s.phase = .failover cmd req v → s'.hands.Sublist s.job.hands := fun heq =>
    ⟨heq ▸ List.sublist_append_right .., fun _ _ _ _ => heq ▸ .refl _⟩
  cases n with
  | goto p =>
    have hflow := hflow p rfl
    cases hl
    rcases hflow.hand with hnone | hsame
    · exact hdone (by simp only [Session.hands, hnone]; rfl)
    · refine ⟨by simp only [Session.hands, hsame]; exact .refl _, fun cmd req v hp => ?_⟩
      rw [hp] at hflow
      cases hflow with
      | stays hw => cases hw
      | inert hinert => simp only [Session.hands, Phase.hand_of_inert hinert]; exact .refl _
  | «return» r => cases hl
  | task ok =>
    refine hdone ((Job.advance_hands hl).trans ?_)
    cases s.job <;> cases ok <;> rfl
  | listed rows =>
    refine hdone ((Job.advance_hands hl).trans ?_)
    cases s.job <;> rfl

/-- Where the work of a session comes from. -/
theorem Arrives.hands (h : Arrives E w e sid s') :
    (∃ s, w.sessions sid = some s ∧ s'.hands.Sublist s.hands ∧
      (e.actor = some sid → (w.step E e).tables = w.tables ∨
        ∀ cmd req v, s.phase = .failover cmd req v → s'.hands.Sublist s.job.hands)) ∨
    (∃ kind picked db cmds, e = .relay sid kind picked ∧ w.tables.db.claim w.now kind picked = .ok (db, cmds) ∧
      s'.hands = cmds.map fun c => (c.payoutRequestID, c.vendor)) ∨
    s'.hands = [] := by
  cases h with
  | stays hs hq => exact .inl ⟨s', hs, .refl _, fun ha => .inl (hq ha)⟩
  | starts hf => cases hf <;> exact .inr (.inr rfl)
  | claims he hclaim heq =>
    subst heq
    exact .inr (.inl ⟨_, _, _, _, he, hclaim, rfl⟩)
  | moves hs hl hflow =>
    obtain ⟨hsub, hfail⟩ := leads_hands hflow hl
    exact .inl ⟨_, hs, hsub, fun _ => .inr hfail⟩

/-- The request is with vendor `v`. -/
def World.With (w : World) (id : UUID) (v : String) : Prop :=
  ∃ r ∈ w.tables.db.requests.1, r.id = id ∧ r.vendor = v

/-- A request stays with its vendor until a relay that works on it fails it over. -/
theorem World.With.step (h : w.With id v) :
    (w.step E e).With id v ∨
      ∃ sid job cmd req nextVendor, e.actor = some sid ∧
        w.sessions sid = some ⟨job, .failover cmd req nextVendor⟩ ∧ req.id = id := by
  obtain ⟨r, hr, hid, hv⟩ := h
  rcases step_rows_image (E := E) (e := e) hr with hr' | ⟨sid, s, r', ha, hs, hr', hrw⟩
  · exact .inl ⟨r, hr', hid, hv⟩
  · rcases hrw.vendor_eq with hsame | ⟨cmd, req, nextVendor, hp, hreq, -, -⟩
    · exact .inl ⟨r', hr', hrw.id_eq.trans hid, hsame.trans hv⟩
    · obtain ⟨job, p⟩ := s
      cases hp
      exact .inr ⟨sid, job, cmd, req, nextVendor, ha, hs, hreq.symm.trans hid⟩

theorem step_failover {job : Job} {cmd : VendorCommand} {req : PayoutRequest} {nextVendor : String}
    (hs : w.sessions sid = some ⟨job, .failover cmd req nextVendor⟩) (ha : e.actor = some sid) :
    Reissues req.id w.tables.db (w.step E e).tables.db := by
  have hexec : ∀ d, Reissues req.id w.tables.db
      (Session.exec E w.now d w.tables ⟨job, .failover cmd req nextVendor⟩).1.db := fun d => by
    simp only [Session.exec]
    split
    · exact .inl rfl
    · rename_i h
      exact (completeAndEnqueueFailover_move h).2
  cases e with
  | advance sid' d =>
    cases ha
    rw [step_advance hs]
    exact hexec d
  | fail sid' applied text =>
    cases ha
    simp only [World.step, hs]
    cases applied with
    | none => exact .inl rfl
    | some d => exact hexec d
  | _ => cases ha

theorem live_unique {db : Db} {c c' : VendorCommand} (hc : c ∈ db.commands.1) (hc' : c' ∈ db.commands.1)
    (hl : c.live = true) (hl' : c'.live = true) (h : c.payoutRequestID = c'.payoutRequestID) : c = c' :=
  List.inj_on_of_nodup_map db.commands.2.one_live (List.mem_filter.2 ⟨hc, hl⟩) (List.mem_filter.2 ⟨hc', hl'⟩) h

/-- A relay claims at most one command of a request. -/
theorem claim_nodup {db db' : Db} {now : ℕ} {kind : ClaimKind} {picked : List UUID} {cmds : List VendorCommand}
    (h : db.claim now kind picked = .ok (db', cmds)) : (cmds.map (·.payoutRequestID)).Nodup := by
  obtain ⟨-, lock, hlock, rfl⟩ := claim_eq (e := .tick 0) h
  have hid : (fun c : VendorCommand => c.payoutRequestID) ∘ lock = (·.payoutRequestID) :=
    funext fun c => congrArg (fun x => x.2.1) (hlock c)
  rw [List.map_map, hid]
  exact db.commands.2.one_live.sublist (List.Sublist.map _
    (List.monotone_filter_right _ fun c hc => kind.live_of_eligible (of_decide_eq_true hc).1))

/-! ## Passes that come too late -/

/-- The claim of a relay, with its session. -/
def Event.claim : Event → Option (SessionID × ClaimKind × List UUID)
  | .relay sid kind picked => some (sid, kind, picked)
  | _ => none

/-- No relay claims a command of a request that session `sid` still works on. -/
def World.Clear (w : World) (sid : SessionID) (e : Event) : Prop :=
  ∀ x ∈ e.claim, sid ≠ x.1 → ∀ s ∈ w.sessions sid, ∀ y ∈ s.hands, ∀ c ∈ w.tables.db.commands.1,
    x.2.1.eligible w.now c = true → c.id ∈ x.2.2 → c.payoutRequestID ≠ y.1

instance : Decidable (w.Clear sid e) := inferInstanceAs (Decidable (∀ x ∈ e.claim, _))

/-- The request and the vendor of the first command, or of a recovered one. -/
def Phase.submits : Phase → Option (UUID × String)
  | .enqueue id vendor => some (id, vendor)
  | .ensure req => some (req.id, req.vendor)
  | _ => none

/-- The request has not moved on to another vendor than `v`. -/
def World.NotMoved (w : World) (id : UUID) (v : String) : Prop :=
  ∀ r ∈ w.tables.db.requests.1, r.id = id → r.vendor = v

instance : Decidable (w.NotMoved id v) := inferInstanceAs (Decidable (∀ r ∈ _, _))

/-- A pass that loaded a request enqueues its command, and an operator replays a dead one,
before the request has moved on. -/
def World.UpToDate (w : World) (e : Event) : Prop :=
  (∀ sid ∈ e.actor, ∀ s ∈ w.sessions sid, ∀ x ∈ s.phase.submits, w.NotMoved x.1 x.2) ∧
    ∀ c ∈ w.tables.db.commands.1, e.revives c = true → w.NotMoved c.payoutRequestID c.vendor

instance : Decidable (w.UpToDate e) := inferInstanceAs (Decidable (_ ∧ _))

/-- One relay at a time works on a request, and no pass or replay comes too late. -/
def InTurn (w : World) (e : Event) : Prop := (∀ sid, w.Clear sid e) ∧ w.UpToDate e

/-- Every live command, and every command a relay works on, is for the vendor its request
is with, and one relay works on a request. -/
structure Handled (w : World) : Prop where
  commands : ∀ c ∈ w.tables.db.commands.1, c.live = true → w.With c.payoutRequestID c.vendor
  rows : ∀ sid s, w.sessions sid = some s → ∀ x ∈ s.hands, w.With x.1 x.2
  alone : ∀ sid s, w.sessions sid = some s → (s.hands.map Prod.fst).Nodup
  apart : ∀ sid sid' s s', sid ≠ sid' → w.sessions sid = some s → w.sessions sid' = some s' →
    ∀ x ∈ s.hands, ∀ y ∈ s'.hands, x.1 ≠ y.1

theorem Handled.idle (rules : List RoutingRule) (gateways : String → Option String)
    (quotes : UUID → Option FeeQuote) (now : ℕ) : Handled (World.idle rules gateways quotes now) where
  commands := fun c h => by simp [World.idle] at h
  rows := fun sid s h => by simp [World.idle] at h
  alone := fun sid s h => by simp [World.idle] at h
  apart := fun sid _ s _ _ h => by simp [World.idle] at h

section Step

variable (hI : Pending E w) (hH : Handled w) (hC : InTurn w e)

include hH

theorem Handled.rows_step (hs' : (w.step E e).sessions sid = some s') {x : UUID × String} (hx : x ∈ s'.hands) :
    (w.step E e).With x.1 x.2 := by
  rcases (step_sessions hs').hands with ⟨s, hs, hsub, hfail⟩ | ⟨kind, picked, db, cmds, rfl, hclaim, heq⟩ | hnil
  · have hwith := hH.rows sid s hs x (hsub.subset hx)
    rcases hwith.step (E := E) (e := e) with hkept | ⟨sid₁, job, cmd, req, nextVendor, ha, hs₁, hid⟩
    · exact hkept
    have hmem : (req.id, cmd.vendor) ∈ (⟨job, .failover cmd req nextVendor⟩ : Session).hands := List.mem_cons_self
    -- the relay that fails the request over is the one that works on it
    by_cases hsid : sid₁ = sid
    · subst hsid
      cases hs₁.symm.trans hs
      rcases hfail ha with hsame | hrest
      · rw [World.With, hsame]
        exact hwith
      · have hnd := List.nodup_cons.1 (hH.alone sid₁ _ hs)
        exact absurd (List.mem_map.2 ⟨x, (hrest _ _ _ rfl).subset hx, hid.symm⟩) hnd.1
    · exact absurd hid (hH.apart sid₁ sid _ s hsid hs₁ hs _ hmem x (hsub.subset hx))
  · rw [heq] at hx
    obtain ⟨c, hc, rfl⟩ := List.mem_map.1 hx
    obtain ⟨c0, hc0, hcore, helig, -⟩ := claim_mem hclaim hc
    simp only [VendorCommand.core, Prod.mk.injEq] at hcore
    have hwith := hH.commands c0 hc0 (kind.live_of_eligible helig)
    rw [hcore.2.1, hcore.2.2.1] at hwith
    rcases hwith.step (E := E) (e := .relay sid kind picked) with hkept | ⟨_, _, _, _, _, ha, -⟩
    · exact hkept
    · cases ha
  · rw [hnil] at hx
    cases hx

theorem Handled.alone_step (hs' : (w.step E e).sessions sid = some s') : (s'.hands.map Prod.fst).Nodup := by
  rcases (step_sessions hs').hands with ⟨s, hs, hsub, -⟩ | ⟨kind, picked, db, cmds, -, hclaim, heq⟩ | hnil
  · exact (hH.alone sid s hs).sublist (hsub.map _)
  · rw [heq, List.map_map]
    exact claim_nodup hclaim
  · rw [hnil]
    exact .nil

include hC

theorem Handled.apart_step {sid' : SessionID} {s₁ s₂ : Session} (hne : sid ≠ sid')
    (h₁ : (w.step E e).sessions sid = some s₁) (h₂ : (w.step E e).sessions sid' = some s₂)
    {x y : UUID × String} (hx : x ∈ s₁.hands) (hy : y ∈ s₂.hands) : x.1 ≠ y.1 := by
  -- a claimed command is of no request that another session works on
  have claimed : ∀ {sid sid' s kind picked db cmds} {x y : UUID × String}, sid' ≠ sid →
    e = .relay sid kind picked →
      w.tables.db.claim w.now kind picked = .ok (db, cmds) →
      x ∈ cmds.map (fun c => (c.payoutRequestID, c.vendor)) → w.sessions sid' = some s → y ∈ s.hands →
        x.1 ≠ y.1 := by
    rintro sid sid' s kind picked db cmds x y hne rfl hclaim hx hs hy
    obtain ⟨c, hc, rfl⟩ := List.mem_map.1 hx
    obtain ⟨c0, hc0, hcore, helig, hpick⟩ := claim_mem hclaim hc
    simp only [VendorCommand.core, Prod.mk.injEq] at hcore
    rw [← hcore.2.1]
    exact hC.1 sid' _ rfl hne s hs y hy c0 hc0 helig hpick
  rcases (step_sessions h₁).hands with ⟨s, hs, hsub, -⟩ | ⟨kind, picked, db, cmds, he, hclaim, heq⟩ | hnil
  · rcases (step_sessions h₂).hands with ⟨s', hs', hsub', -⟩ | ⟨kind, picked, db, cmds, he, hclaim, heq⟩ | hnil
    · exact hH.apart sid sid' s s' hne hs hs' x (hsub.subset hx) y (hsub'.subset hy)
    · exact (claimed hne he hclaim (heq ▸ hy) hs (hsub.subset hx)).symm
    · rw [hnil] at hy
      cases hy
  · rcases (step_sessions h₂).hands with ⟨s', hs', hsub', -⟩ | ⟨_, _, _, _, he', -, -⟩ | hnil
    · exact claimed hne.symm he hclaim (heq ▸ hx) hs' (hsub'.subset hy)
    · rw [he] at he'
      cases he'
      exact absurd rfl hne
    · rw [hnil] at hy
      cases hy
  · rw [hnil] at hx
    cases hx

include hI

theorem Handled.commands_step {c : VendorCommand} (hc : c ∈ (w.step E e).tables.db.commands.1)
    (hlive : c.live = true) : (w.step E e).With c.payoutRequestID c.vendor := by
  rcases step_commands hc with ⟨c0, hc0, hcore, hwas⟩ | ⟨sid, s, ha, hs, henq, r, hr, hid, hv⟩
  · simp only [VendorCommand.core, Prod.mk.injEq] at hcore
    have hwith : w.With c0.payoutRequestID c0.vendor := by
      rcases hwas hlive with hl | hrev
      · exact hH.commands c0 hc0 hl
      · obtain ⟨r, hr, hid, -⟩ := hI.paying.named.commands c0 hc0
        exact ⟨r, hr, hid, hC.2.2 c0 hc0 hrev r hr hid⟩
    rw [← hcore.2.1, ← hcore.2.2.1] at hwith
    rcases hwith.step (E := E) (e := e) with hkept | ⟨sid, job, cmd, req, nextVendor, ha, hs, hid⟩
    · exact hkept
    · rcases step_failover (E := E) hs ha with hsame | ⟨c₁, hc₁, hl₁, hid₁, hwith₁⟩
      · rw [World.With, hsame]
        exact hwith
      · -- the only live command after a failover is the one it inserted
        cases live_unique hc hc₁ hlive hl₁ (hid.symm.trans hid₁.symm)
        rw [hid₁]
        exact hwith₁
  · refine ⟨r, hr, hid, ?_⟩
    obtain ⟨job, p⟩ := s
    have hpass := hC.2.1 sid ha _ hs
    generalize c.payoutRequestID = id at henq hid
    generalize c.vendor = v at henq hv ⊢
    cases henq with
    | failover => exact hv ⟨_, _, _, rfl⟩
    | initial | recovered =>
      rcases step_rows hr with hold | ⟨sid₁, s₁, ha₁, hs₁, hact⟩
      · exact hpass _ rfl r hold hid
      · cases ha.symm.trans ha₁
        cases hs.symm.trans hs₁
        rcases hact with ⟨r0, hr0, hrw⟩ | hins
        · rcases hrw.vendor_eq with hsame | ⟨_, _, _, hp, -⟩
          · exact hsame.trans (hpass _ rfl r0 hr0 (hrw.id_eq.symm.trans hid))
          · cases hp
        · cases hins

/-- **Step lemma.** -/
theorem Handled.step : Handled (w.step E e) where
  commands := fun _ hc hl => hH.commands_step hI hC hc hl
  rows := fun _ _ hs _ hx => hH.rows_step hs hx
  alone := fun _ _ hs => hH.alone_step hs
  apart := fun _ _ _ _ hne h₁ h₂ _ hx _ hy => hH.apart_step hC hne h₁ h₂ hx hy

end Step

/-! ## The hold -/

/-- The vendors that accepted the request. -/
def World.accepters (E : Env) (w : World) (id : UUID) : List String :=
  (w.reached.filter fun x => x.2 = id ∧ E.accepts x.1 id).map Prod.fst

theorem mem_accepters : v ∈ w.accepters E id ↔ w.Accepted E v id := by
  simp only [World.accepters, World.Accepted, List.mem_map, List.mem_filter, decide_eq_true_eq, Prod.exists,
    exists_and_right, exists_eq_right]
  constructor
  · rintro ⟨id', hmem, rfl, hacc⟩
    exact ⟨hmem, hacc⟩
  · rintro ⟨hmem, hacc⟩
    exact ⟨id, hmem, rfl, hacc⟩

/-- The vendor whose answer or report a cancel follows, unless an operator asked for it. -/
def Caller.vendor : Caller → Option String
  | relay cmd => some cmd.vendor
  | poll v | callback v => some v
  | admin => none

/-- The cancel that is posted when `e` happens in `w`. -/
def World.posting (w : World) : Event → Option (Caller × UUID)
  | .advance sid _ =>
    match w.sessions sid with
    | some ⟨_, .closePost (.cancel _) c req ..⟩ => some (c, req.id)
    | _ => none
  | _ => none

theorem posting_eq_some {c : Caller} (h : w.posting e = some (c, id)) :
    ∃ sid job reason req gateway fee,
      w.sessions sid = some ⟨job, .closePost (.cancel reason) c req gateway fee⟩ ∧ req.id = id := by
  unfold World.posting at h
  split at h
  · split at h
    · rename_i hs
      cases h
      exact ⟨_, _, _, _, _, _, hs, rfl⟩
    · cases h
  · cases h

/-- Every live command of the request is for vendor `v`. -/
def World.LiveWith (w : World) (id : UUID) (v : String) : Prop :=
  ∀ c ∈ w.tables.db.commands.1, c.payoutRequestID = id → c.live = true → c.vendor = v

instance : Decidable (w.LiveWith id v) :=
  inferInstanceAs (Decidable
    (∀ c ∈ w.tables.db.commands.1, c.payoutRequestID = id → c.live = true → c.vendor = v))

/-- No vendor accepted the request and no live command is for another vendor than `v`, or
a vendor that accepted it reported it failed. -/
def MayReturn (E : Env) (w : World) (id : UUID) (v : String) : Prop :=
  (w.accepters E id = [] ∧ w.LiveWith id v) ∨ ∃ v' ∈ w.accepters E id, (v', id) ∈ w.reports

instance : Decidable (MayReturn E w id v) := inferInstanceAs (Decidable ((_ ∧ _) ∨ ∃ v' ∈ _, _))

/-- An automatic path posts a cancel only when the hold may be returned. -/
def ReturnsSafely (E : Env) (w : World) (e : Event) : Prop :=
  ∀ x ∈ w.posting e, ∀ v ∈ x.1.vendor, MayReturn E w x.2 v

instance : Decidable (ReturnsSafely E w e) :=
  inferInstanceAs (Decidable (∀ x ∈ w.posting e, ∀ v ∈ x.1.vendor, MayReturn E w x.2 v))

theorem Handled.returnsSafely (hH : Handled w) (hI : Pending E w) : ReturnsSafely E w e := by
  rintro ⟨c, id⟩ hx v hv
  obtain ⟨sid, job, reason, req, gateway, fee, hs, rfl⟩ := posting_eq_some hx
  have hans := (hI.paying.answered sid _ hs).1
  have hrep := (hI.reported sid _ hs).1
  cases c with
  | relay cmd =>
    cases hv
    obtain ⟨r, hr, hid, hv⟩ := hH.rows sid _ hs (req.id, cmd.vendor) List.mem_cons_self
    have hrej : E.accepts cmd.vendor req.id = false := hans
    -- a vendor that accepted would be the row's, and so the command's
    refine .inl ⟨List.eq_nil_iff_forall_not_mem.2 fun v' hv' => ?_, fun c hc hreq hlive => ?_⟩
    · have hacc := mem_accepters.1 hv'
      obtain ⟨r', hr', hid', rfl⟩ := hI.paying.row_of_accepted hacc
      have htrue : E.accepts r'.vendor req.id = true := hacc.2
      rw [row_unique hr' hr (hid'.trans hid.symm), hv, hrej] at htrue
      cases htrue
    · obtain ⟨r', hr', hid', hv'⟩ := hH.commands c hc hlive
      rw [← hv', row_unique hr' hr (hid'.trans (hreq.trans hid.symm)), hv]
  | poll | callback =>
    cases hv
    exact .inr ⟨_, mem_accepters.2 hrep.1, hrep.2⟩
  | admin => cases hv

/-- A session that is there after the event was there, or begins with it. -/
theorem sessions_within {sids : List SessionID} (h : ∀ sid ∉ sids, w.sessions sid = none)
    (he : ∀ sid ∈ e.opens, sid ∈ sids) : ∀ sid ∉ sids, (w.step E e).sessions sid = none := by
  intro sid hsid
  rw [Option.eq_none_iff_forall_not_mem]
  intro s' hs'
  cases step_sessions hs' with
  | stays hs | moves hs => exact absurd ((h sid hsid).symm.trans hs) nofun
  | starts _ hopens => exact hsid (he sid hopens)
  | claims hevent => exact hsid (he sid (by rw [hevent]; rfl))

namespace Sample

/-- The only vendor rejects the request, and the hold is returned. -/
def returned : List Event :=
  created 11 ++ .relay 2 .pending [11] :: submit 2 "acme" 1 .failed ++ go 2 7 ++ [.ledger 1 .accept]

/-- The command of a slow relay is reaped, so that two relays hold it. Both are rejected;
one fails over, the other finds that both vendors were tried and cancels, after the second
vendor has accepted. -/
def superseded : List Event :=
  created 11 ++ .relay 2 .pending [11] :: go 2 1
    ++ [.tick 700, .reapStuckCommands 600, .relay 3 .failedForRetry [11]] ++
    submit 3 "acme" 1 .failed ++ go 2 1 ++ [.submitted 2 (.ok ⟨"ref", .failed, "declined"⟩)] ++
    go 2 4 ++ draw 2 12 ++ go 3 6 ++ .relay 4 .pending [12] :: submit 4 "zeta" 1 .pending ++
    go 3 1 ++ [.ledger 1 .accept]

end Sample

end Seev.Payout
