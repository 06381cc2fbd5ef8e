import Seev.Ledger.Proof.Conservation

/-!
# An original is closed once

Ten types end the life of the transaction they reference. For eight of them the close
guard of `execTransfer` decides a race: it locks the original and finds it open, or
rejects. `merchant_payout_settle` and `merchant_payout_cancel` are not in its table:
they check that the hold is open and leave it open.

* `Exclusive`: how the commands that close one original have to be issued, because of
  those two.
* `closed_at_most_once`: then at most one of them posts, in every interleaving.
* `merchant_hold_closed_twice`: a run without that discipline that settles and cancels
  one hold.
-/

namespace Seev.Ledger

open Lib

/-- The types that end the life of the transaction they reference. -/
def closesOriginal : TxType → Bool
  | .reversal | .refund
  | .withdrawSettle | .withdrawCancel | .withdrawPendingSettle | .withdrawPendingCancel
  | .escrowRelease | .escrowRefund
  | .merchantPayoutSettle | .merchantPayoutCancel => true
  | _ => false

/-- The two of them that the close guard does not know. -/
def merchantCloser : TxType → Bool
  | .merchantPayoutSettle | .merchantPayoutCancel => true
  | _ => false

/-- The guard has exactly the other eight. -/
theorem lifecycleCloseReason_isSome (t : TxType) :
    (lifecycleCloseReason t).isSome = (closesOriginal t && !merchantCloser t) := by
  cases t <;> rfl

/-- The command closes `r`. -/
def Command.Closes (cmd : Command) (r : UUID) : Prop := closesOriginal cmd.type = true ∧ cmd.referenceID = r

instance (cmd : Command) (r : UUID) : Decidable (cmd.Closes r) :=
  inferInstanceAs (Decidable (_ ∧ _))

/-- The posted transactions that close `r`. -/
def World.closings (w : World) (r : UUID) : List (UUID × ResolvedCommand) :=
  w.posted.filter fun p => p.2.Closes r

/-- A command that closes `r` and has been accepted: posted, or in a session. -/
inductive World.Accepted (w : World) (r : UUID) (rc : ResolvedCommand) : Prop
  | posted (txID : UUID) (mem : (txID, rc) ∈ w.posted) (closes : rc.Closes r)
  | running (sid : SessionID) (s : Session) (session : w.sessions sid = some s) (same : s.rc = rc)
      (closes : rc.Closes r)

/-- A merchant payout closer of `r` does not meet another closer of `r`: of two such
commands the second is not issued once the first is accepted. -/
def Exclusive (r : UUID) (w : World) : Event → Prop
  | .handle _ _ cmd => cmd.Closes r → ∀ rc, w.Accepted r rc →
      merchantCloser cmd.type = false ∧ merchantCloser rc.type = false
  | _ => True

variable {E : Env} {w : World} {r : UUID} {sid : SessionID} {s : Session} {db db' : Db}

theorem SameRequest.closes {rc rc' : ResolvedCommand} (h : SameRequest rc rc') (r : UUID) :
    (rc'.Closes r ↔ rc.Closes r) ∧ rc'.type = rc.type := by
  obtain ⟨m, rfl, -⟩ := h
  exact ⟨.rfl, rfl⟩

theorem prepare_closes {now : ℕ} {cmd : Command} {rc : ResolvedCommand}
    (h : prepare E db now cmd = .ok rc) (r : UUID) : (rc.Closes r ↔ cmd.Closes r) ∧ rc.type = cmd.type := by
  obtain ⟨-, -, -, -, -, -, -, -, rfl⟩ := (prepare_ok h).resolved
  exact ⟨.rfl, rfl⟩

/-- The original is closed. -/
def ClosedIn (db : Db) (r : UUID) : Prop := ∃ h, db.txs.lookup r = some h ∧ h.closedByTxID.isSome

/-- What is closed stays closed. -/
theorem Posts.closedIn (h : Posts E db s db') (hr : ClosedIn db r) : ClosedIn db' r := by
  obtain ⟨row, hrow, hclosed⟩ := hr
  have htx : r ≠ s.txID := fun heq => h.fresh (heq ▸ AList.lookup_isSome.1 (by simp [hrow]))
  refine ⟨row, ?_, hclosed⟩
  rw [h.others r htx, hrow]
  -- the guard would have found it closed
  rintro hcl rfl
  obtain ⟨reason, hreason⟩ := Option.isSome_iff_exists.1 hcl
  obtain ⟨-, row', hrow', hopen, -⟩ := h.closes reason hreason
  rw [hrow] at hrow'
  cases hrow'
  rw [hopen] at hclosed
  cases hclosed

/-- A closer the guard knows finds the original open and closes it. -/
theorem Posts.guarded (h : Posts E db s db') (hc : s.rc.Closes r) (hm : merchantCloser s.rc.type = false) :
    ¬ ClosedIn db r ∧ ClosedIn db' r := by
  have hsome : (lifecycleCloseReason s.rc.type).isSome = true := by
    rw [lifecycleCloseReason_isSome, hc.1, hm]
    rfl
  obtain ⟨reason, hreason⟩ := Option.isSome_iff_exists.1 hsome
  obtain ⟨-, row, hrow, hopen, hafter⟩ := h.closes reason hreason
  have href : s.rc.referenceID = r := hc.2
  rw [href] at hrow hafter
  refine ⟨?_, _, hafter, rfl⟩
  rintro ⟨row', hrow', hclosed⟩
  rw [hrow] at hrow'
  cases hrow'
  rw [hopen] at hclosed
  cases hclosed

theorem Rejects.closedIn (h : Rejects E db s db') (hr : ClosedIn db r) : ClosedIn db' r := by
  obtain ⟨row, hrow, hclosed⟩ := hr
  have htx : r ≠ s.txID := fun heq => h.fresh (heq ▸ AList.lookup_isSome.1 (by simp [hrow]))
  obtain ⟨hd, htxs, -, -⟩ := h.header
  exact ⟨row, by rw [htxs, AList.lookup_insert_ne htx, hrow], hclosed⟩

/-- **The invariant.** A merchant closer is alone, running or posted; any other closer
that posted has closed the original. -/
structure ClosedOnce (r : UUID) (w : World) : Prop where
  running : ∀ sid s, w.sessions sid = some s → s.rc.Closes r → merchantCloser s.rc.type = true →
    w.closings r = [] ∧ ∀ sid' s', sid' ≠ sid → w.sessions sid' = some s' → ¬ s'.rc.Closes r
  posted : ∀ p ∈ w.closings r, merchantCloser p.2.type = true →
    ∀ sid s, w.sessions sid = some s → ¬ s.rc.Closes r
  closed : ∀ p ∈ w.closings r, merchantCloser p.2.type = false → ClosedIn w.db r
  once : (w.closings r).length ≤ 1

theorem closedOnce_idle (db : Db) (now : ℕ) (r : UUID) : ClosedOnce r (.idle db now) where
  running _ _ hs := by cases hs
  posted _ hp := by cases hp
  closed _ hp := by cases hp
  once := Nat.zero_le _

/-- A closer in a session was in it before, or is issued now and meets no merchant closer. -/
theorem running_step {ev : Event} (hex : Exclusive r w ev) {s' : Session}
    (hs' : (w.step E ev).sessions sid = some s') (hc : s'.rc.Closes r) :
    (∃ s, w.sessions sid = some s ∧ s.rc.Closes r ∧ s'.rc.type = s.rc.type) ∨
    (∃ txID cmd, ev = .handle sid txID cmd) ∧
      ∀ rc, w.Accepted r rc → merchantCloser s'.rc.type = false ∧ merchantCloser rc.type = false := by
  rcases step_sessions hs' with ⟨s, hs, hsame⟩ | ⟨txID, cmd, rfl, -, hprep⟩
  · exact .inl ⟨s, hs, (hsame.closes r).1.1 hc, (hsame.closes r).2⟩
  · refine .inr ⟨⟨txID, cmd, rfl⟩, fun rc hrc => ?_⟩
    obtain ⟨hcl, htype⟩ := prepare_closes hprep r
    rw [htype]
    exact hex (hcl.1 hc) rc hrc

/-- A step that posts nothing keeps the invariant. -/
theorem ClosedOnce.step_unposted {ev : Event} (h : ClosedOnce r w) (hex : Exclusive r w ev)
    (hposted : (w.step E ev).posted = w.posted)
    (hclosed : ClosedIn w.db r → ClosedIn (w.step E ev).db r) : ClosedOnce r (w.step E ev) := by
  have hclosings : (w.step E ev).closings r = w.closings r := by
    rw [World.closings, World.closings, hposted]
  have haccepted : ∀ p ∈ w.closings r, w.Accepted r p.2 := fun p hp => by
    obtain ⟨hmem, hc⟩ := List.mem_filter.1 hp
    exact .posted p.1 hmem (of_decide_eq_true hc)
  refine ⟨fun sid s' hs' hc hm => ?_, fun p hp hm sid s' hs' hc => ?_, ?_, by rw [hclosings]; exact h.once⟩
  · rw [hclosings]
    rcases running_step hex hs' hc with ⟨s, hs, hcs, htype⟩ | ⟨⟨txID, cmd, rfl⟩, hnew⟩
    · rw [htype] at hm
      obtain ⟨hnone, halone⟩ := h.running sid s hs hcs hm
      refine ⟨hnone, fun sid' t' hne ht' hct => ?_⟩
      rcases running_step hex ht' hct with ⟨t, ht, hctt, -⟩ | ⟨-, hnew⟩
      · exact halone sid' t hne ht hctt
      · have := (hnew s.rc (.running sid s hs rfl hcs)).2
        rw [hm] at this
        cases this
    · -- a merchant closer is issued: nothing that closes `r` is accepted
      have hempty : ∀ rc, ¬ w.Accepted r rc := fun rc hrc => by
        have := (hnew rc hrc).1
        rw [hm] at this
        cases this
      refine ⟨List.eq_nil_iff_forall_not_mem.2 fun p hp => hempty _ (haccepted p hp), ?_⟩
      intro sid' t' hne ht' hct
      rcases running_step hex ht' hct with ⟨t, ht, hctt, -⟩ | ⟨⟨_, _, heq⟩, -⟩
      · exact hempty _ (.running sid' t ht rfl hctt)
      · cases heq
        exact hne rfl
  · rw [hclosings] at hp
    rcases running_step hex hs' hc with ⟨s, hs, hcs, -⟩ | ⟨-, hnew⟩
    · exact h.posted p hp hm sid s hs hcs
    · have := (hnew p.2 (haccepted p hp)).2
      rw [hm] at this
      cases this
  · rw [hclosings]
    exact fun p hp hm => hclosed (h.closed p hp hm)

/-- A posting keeps it: a merchant closer was alone, and any other closer found the
original open, which nobody else had closed then. -/
theorem ClosedOnce.step_posted {w' : World} (h : ClosedOnce r w) (hs : w.sessions sid = some s)
    (hposts : Posts E w.db s w'.db) (hposted : w'.posted = w.posted ++ [(s.txID, s.rc)])
    (hsessions : w'.sessions = Function.update w.sessions sid none) : ClosedOnce r w' := by
  have hold : ∀ sid' s', w'.sessions sid' = some s' → sid' ≠ sid ∧ w.sessions sid' = some s' := by
    intro sid' s' hs'
    rw [hsessions] at hs'
    by_cases hne : sid' = sid
    · simp [hne] at hs'
    · exact ⟨hne, by rwa [Function.update_of_ne hne] at hs'⟩
  by_cases hc : s.rc.Closes r
  · -- nothing that closes `r` has posted before
    have hnone : w.closings r = [] := by
      cases hm : merchantCloser s.rc.type with
      | true => exact (h.running sid s hs hc hm).1
      | false =>
        refine List.eq_nil_iff_forall_not_mem.2 fun p hp => ?_
        cases hpm : merchantCloser p.2.type with
        | true => exact h.posted p hp hpm sid s hs hc
        | false => exact (hposts.guarded hc hm).1 (h.closed p hp hpm)
    have hnow : w'.closings r = [(s.txID, s.rc)] := by
      rw [World.closings, hposted, List.filter_append]
      rw [World.closings] at hnone
      simp [hnone, hc]
    refine ⟨fun sid' s' hs' hc' hm' => ?_, fun p hp hm sid' s' hs' hc' => ?_, fun p hp hm => ?_, ?_⟩
    · obtain ⟨hne, hs'⟩ := hold sid' s' hs'
      exact absurd hc ((h.running sid' s' hs' hc' hm').2 sid s (Ne.symm hne) hs)
    · obtain ⟨hne, hs'⟩ := hold sid' s' hs'
      rw [hnow, List.mem_singleton] at hp
      subst hp
      exact (h.running sid s hs hc hm).2 sid' s' hne hs' hc'
    · rw [hnow, List.mem_singleton] at hp
      subst hp
      exact (hposts.guarded hc hm).2
    · rw [hnow]
      exact le_rfl
  · have hnow : w'.closings r = w.closings r := by
      rw [World.closings, hposted, List.filter_append,
        List.filter_cons_of_neg (by simpa using hc), List.filter_nil, List.append_nil]
      rfl
    refine ⟨fun sid' s' hs' hc' hm' => ?_, fun p hp hm sid' s' hs' => ?_, fun p hp hm => ?_, ?_⟩
    · rw [hnow]
      obtain ⟨hnone, halone⟩ := h.running sid' s' (hold sid' s' hs').2 hc' hm'
      exact ⟨hnone, fun sid'' t hne ht => halone sid'' t hne (hold sid'' t ht).2⟩
    · exact h.posted p (hnow ▸ hp) hm sid' s' (hold sid' s' hs').2
    · exact hposts.closedIn (h.closed p (hnow ▸ hp) hm)
    · rw [hnow]
      exact h.once

theorem ClosedOnce.step {ev : Event} (hw : WorldOK E w) (h : ClosedOnce r w) (hex : Exclusive r w ev) :
    ClosedOnce r (w.step E ev) := by
  cases step_effect hw ev with
  | quiet hdb hposted => exact h.step_unposted hex hposted fun hc => by rwa [hdb]
  | posts sid s hs _ hposts hposted hsessions _ => exact h.step_posted hs hposts hposted hsessions
  | rejects sid s _ _ hrejects hposted _ =>
    exact h.step_unposted hex hposted fun hc => hrejects.closedIn hc

/-- **An original is closed at most once.** In every interleaving in which a merchant
payout closer of `r` does not meet another closer of `r`, at most one transaction that
closes `r` ever posts. -/
theorem closed_at_most_once (E : Env) (db : Db) (now : ℕ) (r : UUID) (hdb : DbOK E db)
    (evs : List Event) (hevs : Along (World.step E) (Exclusive r) (.idle db now) evs) :
    ((run (World.step E) (.idle db now) evs).closings r).length ≤ 1 := by
  have hrun : WorldOK E (run (World.step E) (.idle db now) evs) ∧
      ClosedOnce r (run (World.step E) (.idle db now) evs) :=
    run_inv_of_along (I := fun w => WorldOK E w ∧ ClosedOnce r w) (C := Exclusive r)
      (fun _ ev hw hex => ⟨step_ok hw.1 ev, hw.2.step hw.1 hex⟩)
      ⟨idle_ok hdb, closedOnce_idle db now r⟩ hevs
  exact hrun.2.once

/-! ## The two types outside the guard -/

namespace Sample

/-- A command of merchant tenant 5. -/
def merchantCommand (key : String) (t : TxType) (amount : Decimal) (referenceID : UUID) : Command :=
  { command key t amount referenceID with userID := UUID.nil, merchantTenantID := 5 }

/-- The merchant has 100, and 30 of it on each of two holds, transactions 102 and 103. -/
def held : World :=
  run (World.step env) (.idle zeroed 0) (call 1 101 (merchantCommand "k1" .merchantPayinCredit 100 UUID.nil) ++
    call 2 102 (merchantCommand "k2" .merchantPayoutHold 30 UUID.nil) ++
    call 3 103 (merchantCommand "k3" .merchantPayoutHold 30 UUID.nil))

/-- Settle one hold. -/
def settle : List Event := call 4 104 (merchantCommand "k4" .merchantPayoutSettle 30 102)

/-- Then cancel the same hold. -/
def cancel : List Event := call 5 105 (merchantCommand "k5" .merchantPayoutCancel 30 102)

end Sample

theorem Sample.held_ok : DbOK env held.db := (run_ok (idle_ok (dbOK_empty rfl zeroed_zero)) _).db

/-- One settlement of a hold meets the discipline. -/
theorem Sample.settle_exclusive : Along (World.step env) (Exclusive 102) (.idle held.db 0) settle := by
  refine ⟨fun _ rc hrc => ?_, .of_forall (fun ev hev w => ?_) _⟩
  · cases hrc with
    | posted _ hmem => cases hmem
    | running _ _ hs => cases hs
  · rw [List.eq_of_mem_replicate hev]
    trivial

set_option maxRecDepth 20000 in
/-- It posts, once. -/
theorem closed_at_most_once_settle :
    ((run (World.step Sample.env) (.idle Sample.held.db 0) Sample.settle).closings 102).map Prod.fst = [104] ∧
      ((run (World.step Sample.env) (.idle Sample.held.db 0) Sample.settle).closings 102).length ≤ 1 :=
  ⟨by decide +kernel, closed_at_most_once Sample.env Sample.held.db 0 102 Sample.held_ok Sample.settle
    Sample.settle_exclusive⟩

set_option maxRecDepth 20000 in
/-- **A merchant hold is settled and then cancelled.** Both post, and the second takes the
money of the other hold, which is still open: the hold account is empty. -/
theorem merchant_hold_closed_twice :
    let w := run (World.step Sample.env) Sample.held (Sample.settle ++ Sample.cancel)
    (w.closings 102).map Prod.fst = [104, 105] ∧ w.db.balances 52 = some 0 ∧
      (w.db.txs.lookup 103).map TxRow.closedByTxID = some none := by
  decide +kernel

end Seev.Ledger
