import Seev.Ledger.BackOffice
import Seev.Lib.Slots

/-!
# When the back-office outcomes are true

The mark of an outcome follows the error of the post and looks at nothing else. It is true if the error is, and if
no other call works on the row in between: an adjustment is let through once, an item is listed as often as runs
ask for it.

* `work_honest`: a statement of a call that has the row for itself.
* `outcomes_truthful`: a failed adjustment or item has no transaction under its key, and a posted item stays
  posted, in every run whose errors are true and whose items are worked on by one call at a time.
-/

namespace Seev.Ledger.BackOffice

open Lib

variable {S : Type} {m : Marks S} {r : Row S}

/-- What a call knows of the post. -/
def Pc.Fits (posted : Bool) : Pc → Prop
  | .decode => posted = false
  | .markFailed => posted = false
  | .getByIdempotencyKey => posted = true
  | .markPosted => posted = true
  | _ => True

/-- No call is at work on the row. -/
def Row.Idle (r : Row S) : Prop := ∀ pc ∈ r.calls, pc.running = false

instance : Decidable r.Idle := inferInstanceAs (Decidable (∀ pc ∈ r.calls, pc.running = false))

structure Honest (m : Marks S) (r : Row S) : Prop where
  single : AtMostOne Pc.running r.calls
  fits : ∀ pc ∈ r.calls, pc.Fits r.posted
  failed : r.status = m.failed → r.posted = false ∧ r.Idle
  recorded : r.status = m.posted → r.posted = true

/-- A post that returns an error has committed nothing, and finds nothing under its key. -/
def Row.ErrorIsTrue (r : Row S) : Work → Prop
  | .statement k a => r.calls[k]? = some .post → a = .ok ∨ (a = .error ∧ r.posted = false)
  | .crash _ => True

instance (e : Work) : Decidable (r.ErrorIsTrue e) :=
  match e with
  | .statement k a =>
    inferInstanceAs (Decidable (r.calls[k]? = some .post → a = .ok ∨ (a = .error ∧ r.posted = false)))
  | .crash _ => .isTrue trivial

theorem Pc.of_not_running {pc : Pc} (h : pc.running = false) : pc = .returned := by simpa [Pc.running] using h

theorem exec_calls (pc : Pc) (a : Answer) : (r.exec m pc a).2.calls = r.calls := by cases pc <;> cases a <;> rfl

/-- One statement of a call on a row that has not failed. -/
theorem exec_fits (hm : m.posted ≠ m.failed) {pc : Pc} (hpc : pc.Fits r.posted) (hs : r.status ≠ m.failed)
    (hrec : r.status = m.posted → r.posted = true) {a : Answer}
    (ha : pc = .post → a = .ok ∨ (a = .error ∧ r.posted = false)) :
    let r' := (r.exec m pc a).2
    (r.exec m pc a).1.Fits r'.posted ∧
    (r'.status = m.failed → r'.posted = false ∧ (r.exec m pc a).1 = .returned) ∧
      (r'.status = m.posted → r'.posted = true) ∧ (r.status = m.posted → r'.status ≠ m.failed) := by
  have hsame : ∀ pc' : Pc, pc'.Fits r.posted → pc'.Fits r.posted ∧
      (r.status = m.failed → r.posted = false ∧ pc' = .returned) ∧ (r.status = m.posted → r.posted = true) ∧
      (r.status = m.posted → r.status ≠ m.failed) :=
    fun pc' h => ⟨h, fun h' => absurd h' hs, hrec, fun _ => hs⟩
  cases pc with
  | decode =>
    cases a with
    | ok => exact hsame .post trivial
    | error | lost => exact hsame .markFailed hpc
  | post =>
    rcases ha rfl with rfl | ⟨rfl, hp⟩
    · exact ⟨rfl, fun h => absurd h hs, fun _ => rfl, fun _ => hs⟩
    · exact hsame .markFailed hp
  | getByIdempotencyKey =>
    cases a with
    | ok => exact hsame .markPosted hpc
    | error | lost => exact hsame .returned trivial
  | markPosted =>
    have hp : r.posted = true := hpc
    cases a with
    | error => exact hsame .returned trivial
    | ok | lost => exact ⟨trivial, fun h => absurd h hm, fun _ => hp, fun _ => hm⟩
  | markFailed =>
    have hp : r.posted = false := hpc
    cases a with
    | error => exact hsame .returned trivial
    | ok | lost =>
      refine ⟨trivial, fun _ => ⟨hp, rfl⟩, fun h => absurd h hm.symm, fun h => ?_⟩
      rw [hrec h] at hp
      exact nomatch hp
  | returned => exact hsame .returned trivial

theorem work_honest (hm : m.posted ≠ m.failed) (h : Honest m r) {e : Work} (he : r.ErrorIsTrue e) :
    Honest m (r.work m e) ∧ (r.status = m.posted → (r.work m e).status ≠ m.failed) := by
  cases e with
  | crash k =>
    have hfailed : r.status = m.failed → r.posted = false ∧ ∀ pc ∈ r.calls.set k .returned, pc.running = false :=
      fun hf => ⟨(h.failed hf).1, forall_step (h.failed hf).2 rfl⟩
    exact ⟨⟨h.single.stop rfl, forall_step h.fits trivial, hfailed, h.recorded⟩,
      fun hs hf => hm (hs.symm.trans hf)⟩
  | statement k a =>
    cases hk : r.calls[k]? with
    | none =>
      simp only [Row.work, hk]
      exact ⟨h, fun hs hf => hm (hs.symm.trans hf)⟩
    | some pc =>
      simp only [Row.work, hk]
      have hmem := List.mem_of_getElem? hk
      cases hrun : pc.running with
      | false =>
        obtain rfl := Pc.of_not_running hrun
        simp only [Row.exec, set_same hk]
        exact ⟨h, fun hs hf => hm (hs.symm.trans hf)⟩
      | true =>
        -- the call has the row for itself, so the row has not failed and the other calls have returned
        have hs : r.status ≠ m.failed := by
          intro hf
          rw [(h.failed hf).2 pc hmem] at hrun
          exact nomatch hrun
        obtain ⟨hfit, hfail, hrec, hkeep⟩ := exec_fits hm (h.fits pc hmem) hs h.recorded fun hp => he (hp ▸ hk)
        refine ⟨⟨?_, fun q hq => ?_, fun hf => ⟨(hfail hf).1, fun q hq => ?_⟩, hrec⟩, hkeep⟩
        · rw [exec_calls]
          exact h.single.set hk hrun
        · rw [exec_calls] at hq
          rcases h.single.of_mem_set hk hrun hq with rfl | hq
          · exact hfit
          · rw [Pc.of_not_running hq]
            trivial
        · rw [exec_calls] at hq
          rcases h.single.of_mem_set hk hrun hq with rfl | hq
          · rw [(hfail hf).2]
            rfl
          · exact hq

/-- The statuses that a statement leaves. -/
theorem work_status (e : Work) :
    (r.work m e).status = r.status ∨ (r.work m e).status = m.posted ∨ (r.work m e).status = m.failed := by
  cases e with
  | crash k => exact .inl rfl
  | statement k a =>
    cases hk : r.calls[k]? with
    | none => exact .inl (by simp only [Row.work, hk])
    | some pc =>
      simp only [Row.work, hk]
      cases pc <;> cases a <;> simp [Row.exec]

/-- A row that a call takes while it is idle. -/
theorem Honest.start (h : Honest m r) (hidle : r.Idle) {s : S} (hs : s ≠ m.failed)
    (hrec : s = m.posted → r.posted = true) {pc : Pc} (hpc : pc.Fits r.posted) :
    Honest m (Row.start { r with status := s } pc) := by
  exact ⟨AtMostOne.concat hidle, forall_start h.fits hpc, fun hf => absurd hf hs, hrec⟩

/-! ## The adjustment -/

/-- An adjustment, from which nothing is posted before it is approved. -/
structure Adjustment (r : Row AdjustmentStatus) : Prop where
  honest : Honest adjustmentMarks r
  pending : r.status = .pending → r.posted = false ∧ r.Idle

theorem approve_adjustment {r : Row AdjustmentStatus} (h : Adjustment r) (a : Answer) :
    Adjustment (approve r a) := by
  by_cases hs : r.status = .pending
  · obtain ⟨hp, hidle⟩ := h.pending hs
    cases a with
    | ok =>
      rw [approve, if_pos hs]
      exact ⟨h.honest.start hidle (by simp [adjustmentMarks]) (by simp [adjustmentMarks]) hp, fun hs' =>
        nomatch hs'⟩
    | error => exact h
    | lost =>
      rw [approve, if_pos hs]
      exact ⟨⟨h.honest.single, h.honest.fits, (fun hf => nomatch hf), (fun hf => nomatch hf)⟩, fun hs' =>
        nomatch hs'⟩
  · cases a <;> simpa [approve, hs] using h

theorem reject_adjustment {r : Row AdjustmentStatus} (h : Adjustment r) (a : Answer) :
    Adjustment (reject r a) := by
  by_cases hs : r.status = .pending
  · cases a with
    | error => exact h
    | ok | lost =>
      rw [reject, if_pos hs]
      · exact ⟨⟨h.honest.single, h.honest.fits, (fun hf => nomatch hf), (fun hf => nomatch hf)⟩, fun hs' =>
          nomatch hs'⟩
      · simp
  · cases a <;> simpa [reject, hs] using h

theorem work_adjustment {r : Row AdjustmentStatus} (h : Adjustment r) {e : Work} (he : r.ErrorIsTrue e) :
    Adjustment (r.work adjustmentMarks e) := by
  refine ⟨(work_honest (by decide) h.honest he).1, fun hs => ?_⟩
  rcases work_status (m := adjustmentMarks) (r := r) e with hst | hst | hst
  · -- a pending adjustment has no call whose statement could run
    obtain ⟨hp, hidle⟩ := h.pending (hst.symm.trans hs)
    have hcrash : ∀ k, Row.Idle { r with calls := r.calls.set k .returned } :=
      fun k => forall_step hidle rfl
    cases e with
    | crash k => exact ⟨hp, hcrash k⟩
    | statement k a =>
      cases hk : r.calls[k]? with
      | none =>
        simp only [Row.work, hk]
        exact ⟨hp, hidle⟩
      | some pc =>
        obtain rfl := Pc.of_not_running (hidle pc (List.mem_of_getElem? hk))
        simp only [Row.work, hk, Row.exec]
        exact ⟨hp, hcrash k⟩
  · rw [hst] at hs
    exact nomatch hs
  · rw [hst] at hs
    exact nomatch hs

/-! ## Both -/

/-- An adjustment or item that failed has no transaction under its idempotency key. -/
def World.Truthful (w : World) : Prop :=
  (w.adjustment.status = .failed → w.adjustment.posted = false) ∧
    (w.item.status = .failed → w.item.posted = false)

/-- The errors of the posts are true, and a run takes an item only while it is pending and no other works on
it. -/
def World.Sound (w : World) : Event → Prop
  | .adjustment e => w.adjustment.ErrorIsTrue e
  | .item e => w.item.ErrorIsTrue e
  | .list retryFailed =>
    (w.item.status = .failed → retryFailed = false) ∧ (w.item.status = .pending → w.item.Idle)
  | .approve _ => True
  | .reject _ => True

instance (w : World) (e : Event) : Decidable (w.Sound e) :=
  match e with
  | .adjustment e => inferInstanceAs (Decidable (w.adjustment.ErrorIsTrue e))
  | .item e => inferInstanceAs (Decidable (w.item.ErrorIsTrue e))
  | .list r =>
    inferInstanceAs (Decidable ((w.item.status = .failed → r = false) ∧ (w.item.status = .pending → w.item.Idle)))
  | .approve _ => .isTrue trivial
  | .reject _ => .isTrue trivial

structure Inv (w : World) : Prop where
  adjustment : Adjustment w.adjustment
  item : Honest itemMarks w.item

theorem list_honest {r : Row ItemStatus} (h : Honest itemMarks r) {retryFailed : Bool}
    (hr : r.status = .failed → retryFailed = false) (hi : r.status = .pending → r.Idle) :
    Honest itemMarks (list r retryFailed) := by
  unfold list
  split
  · rename_i hl
    have hs : r.status = .pending := by
      rcases hl with hs | ⟨hf, ht⟩
      · exact hs
      · rw [hr hf] at ht
        exact nomatch ht
    exact h.start (hi hs) (s := r.status) (by simp [hs, itemMarks]) h.recorded trivial
  · exact h

theorem inv_step (w : World) (e : Event) (h : Inv w) (he : w.Sound e) :
    Inv (w.step e) ∧ (w.item.status = .posted → (w.step e).item.status ≠ .failed) := by
  have hkeep : w.item.status = .posted → w.item.status ≠ .failed := fun hs hf => by simp [hs] at hf
  cases e with
  | approve a => exact ⟨⟨approve_adjustment h.adjustment a, h.item⟩, hkeep⟩
  | reject a => exact ⟨⟨reject_adjustment h.adjustment a, h.item⟩, hkeep⟩
  | adjustment e => exact ⟨⟨work_adjustment h.adjustment he, h.item⟩, hkeep⟩
  | list retryFailed =>
    refine ⟨⟨h.adjustment, list_honest h.item he.1 he.2⟩, fun hs => ?_⟩
    simp [World.step, list, hs]
  | item e =>
    obtain ⟨hhonest, hposted⟩ := work_honest (by decide) h.item he
    exact ⟨⟨h.adjustment, hhonest⟩, hposted⟩

theorem created_inv : Inv World.created where
  adjustment := ⟨⟨.nil, fun _ h => absurd h List.not_mem_nil, (fun h => nomatch h), (fun h => nomatch h)⟩,
    fun _ => ⟨rfl, fun _ h => absurd h List.not_mem_nil⟩⟩
  item := ⟨.nil, fun _ h => absurd h List.not_mem_nil, (fun h => nomatch h), (fun h => nomatch h)⟩

/-- **The outcomes are true** in every run whose posts report an error only when nothing stands under their
key, and whose disbursement runs take an item only while it is pending and no other run works on it: what has
failed was not posted, and an item that was recorded as posted does not become failed. -/
theorem outcomes_truthful (es : List Event) (h : Along World.step World.Sound .created es) :
    (run World.step .created es).Truthful ∧
      Along World.step (fun w e => w.item.status = .posted → (w.step e).item.status ≠ .failed) .created es := by
  have hinv := run_inv_of_along (I := Inv) (fun w e hw he => (inv_step w e hw he).1) created_inv h
  refine ⟨⟨fun hf => (hinv.adjustment.honest.failed hf).1, fun hf => (hinv.item.failed hf).1⟩, ?_⟩
  exact Along.of_inv (fun w e hw he => (inv_step w e hw he).1) (fun w e hw he => (inv_step w e hw he).2)
    created_inv h

/-- An adjustment that the ledger refuses, and an item that it posts. -/
def refusedAndPosted : List Event :=
  [.approve .ok, .adjustment (.statement 0 .ok), .adjustment (.statement 0 .error),
    .adjustment (.statement 0 .ok),
    .list false, .item (.statement 0 .ok), .item (.statement 0 .ok), .item (.statement 0 .ok)]

theorem outcomes_truthful_refused :
    Along World.step World.Sound .created refusedAndPosted ∧
      (run World.step .created refusedAndPosted).Truthful :=
  ⟨by decide +kernel, (outcomes_truthful refusedAndPosted (by decide +kernel)).1⟩

/-- **A posted adjustment and a posted item end as failed**: the commit of the adjustment answers with an
error; and of two overlapping runs, one is refused by the ledger and writes so after the other has posted the
item. -/
theorem posted_yet_failed :
    let w := run World.step .created
      [.approve .ok, .adjustment (.statement 0 .ok), .adjustment (.statement 0 .lost),
        .adjustment (.statement 0 .ok),
        .list false, .list false, .item (.statement 0 .error), .item (.statement 1 .ok), .item (.statement 1 .ok),
        .item (.statement 1 .ok)]
    (w.adjustment.status = .failed ∧ w.adjustment.posted = true) ∧ w.item.status = .posted ∧
      (w.step (.item (.statement 0 .ok))).item.status = .failed ∧
      (w.step (.item (.statement 0 .ok))).item.posted = true := by
  decide +kernel

end Seev.Ledger.BackOffice
