import Mathlib.Order.Basic
import Seev.Gateway.Delivery

/-!
# When a delivery ends

The number of an attempt comes from `attempt_count`, which the mark that follows it raises. An attempt
that was recorded and never marked therefore blocks its number for good. No mark looks at the status it
overwrites, so a worker that outlives its lease may reopen what another worker has ended. A run is
`Undisturbed` where neither happens; then at most one worker holds the delivery, what it claimed is what
the row says, and no attempt is ahead of the row but the one whose mark comes next (`Sound`).

* `deliveries_end`: in an undisturbed run a delivery that has ended stays as it is and is not dispatched,
  and without errors it ends within `maxDeliveryAttempts` passes.
* `unmarked_attempt_blocks`: after one crash between the attempt and its mark, passes change nothing.
-/

namespace Seev.Gateway.Delivery

open Lib

variable {w : World} {k : WorkerID} {d : Draw}

def Row.Open (r : Row) : Prop := r.status = .pending ∨ r.status = .failed

instance (r : Row) : Decidable r.Open := inferInstanceAs (Decidable (_ ∨ _))

/-- The delivery is delivered or dead. -/
def Row.Ended (r : Row) : Prop := r.status = .delivered ∨ r.status = .dead

instance (r : Row) : Decidable r.Ended := inferInstanceAs (Decidable (_ ∨ _))

theorem Row.open_or_ended (r : Row) : r.Open ∨ r.Ended := by
  cases h : r.status <;> simp [Row.Open, Row.Ended, h]

/-- A worker stopped here loses the mark of an attempt that is on record. -/
def World.Unmarked (w : World) (k : WorkerID) : Prop :=
  match w.phase k with
  | .disableEndpoint count | .marking count _ => count + 1 ∈ w.attempts
  | _ => False

instance (w : World) (k : WorkerID) : Decidable (w.Unmarked k) := by
  unfold World.Unmarked
  split <;> infer_instance

/-- Nobody claims the delivery while a worker still holds it, and no attempt is left without its mark. -/
def Undisturbed (w : World) : Event → Prop
  | .claim k _ => w.phase k = .idle → w.row.claimable w.clock → ∀ k', w.phase k' = .idle
  | .fault k _ took =>
    match w.phase k with
    | .recordAttempt .. => took = false
    | .marking .. => took = true ∨ ¬ w.Unmarked k
    | _ => True
  | .crash k => ¬ w.Unmarked k
  | _ => True

/-- No statement fails, nobody crashes, and the event and the secret are there. -/
def Event.smooth : Event → Prop
  | .advance _ d => d.found = true
  | .fault .. | .crash _ => False
  | _ => True

instance (e : Event) : Decidable e.smooth := by
  unfold Event.smooth
  split <;> infer_instance

/-- The event ends a pass over the delivery. -/
def World.passed (w : World) : Event → ℕ
  | .advance k d => if w.phase k ≠ .idle ∧ (w.exec k d).phase k = .idle then 1 else 0
  | _ => 0

/-- The passes over the delivery that a run completes. -/
def passes (w : World) : List Event → ℕ
  | [] => 0
  | e :: es => w.passed e + passes (w.step e) es

/-! ## The invariant -/

/-- What a worker at each of its statements has to be able to rely on. -/
def World.Working (w : World) : Phase → Prop
  | .idle => False
  | .getEndpoint c | .getEvent c | .dispatch c | .recordAttempt c _ =>
    c = w.row.attemptCount ∧ ∀ n ∈ w.attempts, n ≤ w.row.attemptCount
  | .disableEndpoint c => c = w.row.attemptCount ∧ ∀ n ∈ w.attempts, n ≤ w.row.attemptCount + 1
  | .marking c m =>
    c = w.row.attemptCount ∧ (∀ n ∈ w.attempts, n ≤ w.row.attemptCount + 1) ∧
      (m = .failed → w.row.attemptCount + 1 < maxDeliveryAttempts)

inductive Sound (w : World) : Prop
  | free (idle : ∀ k, w.phase k = .idle) (attempts : w.row.Open → ∀ n ∈ w.attempts, n ≤ w.row.attemptCount)
      (bound : w.row.Open → w.row.attemptCount < maxDeliveryAttempts)
  | held (k : WorkerID) (others : ∀ k' ≠ k, w.phase k' = .idle) (opened : w.row.Open)
      (bound : w.row.attemptCount < maxDeliveryAttempts) (working : w.Working (w.phase k))

theorem Sound.created (clock : ℤ) : Sound (World.created clock) :=
  .free (fun _ => rfl) (fun _ _ h => nomatch h) fun _ => Nat.succ_pos 14

theorem Sound.bound (h : Sound w) (ho : w.row.Open) : w.row.attemptCount < maxDeliveryAttempts := by
  cases h with
  | free _ _ bound => exact bound ho
  | held _ _ _ bound _ => exact bound

/-- Whoever holds a delivery holds one that has not ended. -/
theorem Sound.idle_of_ended (h : Sound w) (he : w.row.Ended) (k : WorkerID) : w.phase k = .idle := by
  cases h with
  | free idle _ _ => exact idle k
  | held _ _ opened _ _ =>
    rcases opened with h | h <;> rcases he with h' | h' <;> rw [h] at h' <;> cases h'

theorem settle_working {c : ℕ} {status : Option ℕ} (hc : c = w.row.attemptCount)
    (hn : ∀ n ∈ w.attempts, n ≤ w.row.attemptCount + 1) : w.Working (settle c status) := by
  unfold settle
  split
  · exact ⟨hc, hn, fun h => nomatch h⟩
  split
  · exact ⟨hc, hn⟩
  split
  · exact ⟨hc, hn, fun h => nomatch h⟩
  · exact ⟨hc, hn, fun _ => by omega⟩

theorem settle_ne_idle (c : ℕ) (status : Option ℕ) : settle c status ≠ .idle := by
  unfold settle
  split_ifs <;> exact nofun

/-- The holder goes on to another phase. -/
theorem Sound.goto {v : World} {p : Phase} (others : ∀ k' ≠ k, w.phase k' = .idle) (opened : w.row.Open)
    (bound : w.row.attemptCount < maxDeliveryAttempts) (hrow : v.row = w.row)
    (hphase : v.phase = Function.update w.phase k p) (hp : v.Working p) : Sound v := by
  refine .held k (fun k' hk' => ?_) (hrow ▸ opened) (hrow ▸ bound) ?_
  · rw [hphase, Function.update_of_ne hk']
    exact others k' hk'
  · rw [hphase, Function.update_self]
    exact hp

/-- The holder leaves the delivery. -/
theorem Sound.leave {v : World} (others : ∀ k' ≠ k, w.phase k' = .idle)
    (hphase : v.phase = Function.update w.phase k .idle)
    (attempts : v.row.Open → ∀ n ∈ v.attempts, n ≤ v.row.attemptCount)
    (bound : v.row.Open → v.row.attemptCount < maxDeliveryAttempts) : Sound v := by
  refine .free (fun k' => ?_) attempts bound
  rw [hphase]
  rcases eq_or_ne k' k with rfl | hk'
  · rw [Function.update_self]
  · rw [Function.update_of_ne hk']
    exact others k' hk'

/-- A mark ends the delivery or counts the attempt. -/
theorem Row.mark_progress (r : Row) (later : ℤ) (m : Mark) :
    (r.mark later m).Ended ∨ m = .failed ∧ (r.mark later m).attemptCount = r.attemptCount + 1 := by
  cases m with
  | delivered => exact .inl (.inl rfl)
  | failed => exact .inr ⟨rfl, rfl⟩
  | dead => exact .inl (.inr rfl)

theorem Row.Ended.not_open {r : Row} (he : r.Ended) : ¬ r.Open := by
  rintro (h | h) <;> rcases he with h' | h' <;> rw [h] at h' <;> cases h'

/-- The statement the holder runs keeps the invariant; a pass that ends has ended the delivery or counted
its attempt. -/
theorem exec_held (others : ∀ k' ≠ k, w.phase k' = .idle) (opened : w.row.Open)
    (bound : w.row.attemptCount < maxDeliveryAttempts) (working : w.Working (w.phase k)) :
    Sound (w.exec k d) ∧ w.row.attemptCount ≤ (w.exec k d).row.attemptCount ∧
      (d.found = true → (w.exec k d).phase k = .idle →
        (w.exec k d).row.Ended ∨ (w.exec k d).row.attemptCount = w.row.attemptCount + 1) := by
  have hmove {v : World} {p : Phase} := Sound.goto (v := v) (p := p) others opened bound
  rw [World.exec]
  cases hp : w.phase k with
  | idle => rw [hp] at working; exact working.elim
  | getEndpoint c =>
    rw [hp] at working
    obtain ⟨hc, hn⟩ := working
    dsimp only
    split
    · exact ⟨hmove rfl rfl ⟨hc, hn⟩, le_rfl, fun _ h => by simp [World.goto] at h⟩
    · exact ⟨hmove rfl rfl ⟨hc, fun n h => (hn n h).trans (Nat.le_succ _), nofun⟩, le_rfl,
        fun _ h => by simp [World.goto] at h⟩
  | getEvent c =>
    rw [hp] at working
    dsimp only
    split
    · exact ⟨hmove rfl rfl working, le_rfl, fun _ h => by simp [World.goto] at h⟩
    · next hd => exact ⟨.leave others rfl (fun _ => working.2) (fun _ => bound), le_rfl, fun h => absurd h hd⟩
  | dispatch c =>
    rw [hp] at working
    exact ⟨hmove rfl rfl working, le_rfl, fun _ h => by simp [World.goto] at h⟩
  | recordAttempt c status =>
    rw [hp] at working
    obtain ⟨hc, hn⟩ := working
    dsimp only
    split
    · next hmem =>
      -- the number is free: no attempt is ahead of the row
      have := hn _ hmem
      omega
    · refine ⟨hmove rfl rfl (settle_working hc ?_), le_rfl, fun _ h => ?_⟩
      · intro n h
        rcases List.mem_append.1 h with h | h
        · exact (hn n h).trans (Nat.le_succ _)
        · have : n = c + 1 := List.mem_singleton.1 h
          exact this.le.trans (by rw [hc]; rfl)
      · exact absurd (by simpa [World.goto] using h) (settle_ne_idle c status)
  | disableEndpoint c =>
    rw [hp] at working
    exact ⟨hmove rfl rfl ⟨working.1, working.2, nofun⟩, le_rfl, fun _ h => by simp [World.goto] at h⟩
  | marking c m =>
    rw [hp] at working
    obtain ⟨-, hn, hm⟩ := working
    have hle : w.row.attemptCount ≤ (w.row.mark d.later m).attemptCount := by
      cases m
      · exact Nat.le_succ _
      · exact Nat.le_succ _
      · exact le_rfl
    refine ⟨.leave others rfl (fun ho n h => ?_) (fun ho => ?_), hle, fun _ _ => ?_⟩
    · rcases w.row.mark_progress d.later m with he | ⟨-, hcount⟩
      · exact absurd ho he.not_open
      · exact (hn n h).trans hcount.ge
    · rcases w.row.mark_progress d.later m with he | ⟨hfailed, hcount⟩
      · exact absurd ho he.not_open
      · exact hcount.trans_lt (hm hfailed)
    · exact (w.row.mark_progress d.later m).imp_right And.right

theorem exec_idle (h : w.phase k = .idle) : w.exec k d = w := by rw [World.exec, h]

theorem fault_idle {took : Bool} (h : w.phase k = .idle) : w.step (.fault k d took) = w := by
  simp only [World.step, exec_idle h, h, Phase.failed, ite_self]
  rw [← h, Function.update_eq_self]

theorem crash_idle (h : w.phase k = .idle) : w.step (.crash k) = w := by
  rw [World.step, World.goto, ← h, Function.update_eq_self]

/-- What a worker leaves behind when it stops is sound unless it was about to mark its attempt. -/
theorem leave_sound {v : World} (others : ∀ k' ≠ k, w.phase k' = .idle)
    (bound : w.row.attemptCount < maxDeliveryAttempts) (working : w.Working (w.phase k)) (hm : ¬ w.Unmarked k)
    (hrow : v.row = w.row) (hattempts : v.attempts = w.attempts)
    (hphase : v.phase = Function.update w.phase k .idle) : Sound v := by
  refine .leave others hphase ?_ (fun _ => hrow ▸ bound)
  rw [hrow, hattempts]
  intro _ n hn
  have hne (c : ℕ) (h : n ≤ w.row.attemptCount + 1) (hc : c = w.row.attemptCount) (hm : c + 1 ∉ w.attempts) :
      n ≤ w.row.attemptCount := by
    have : n ≠ w.row.attemptCount + 1 := fun heq => hm (by rw [hc, ← heq]; exact hn)
    omega
  rw [World.Unmarked] at hm
  cases hp : w.phase k with
  | idle => rw [hp] at working; exact working.elim
  | getEndpoint | getEvent | dispatch | recordAttempt => rw [hp] at working; exact working.2 n hn
  | disableEndpoint c => rw [hp] at working hm; exact hne c (working.2 n hn) working.1 hm
  | marking c m => rw [hp] at working hm; exact hne c (working.2.1 n hn) working.1 hm

/-- Only the attempt and the mark write to the delivery and its attempts. -/
theorem exec_reads (h : match w.phase k with | .recordAttempt .. | .marking .. => False | _ => True) :
    (w.exec k d).row = w.row ∧ (w.exec k d).attempts = w.attempts := by
  rw [World.exec]
  cases hp : w.phase k with
  | idle | getEndpoint | getEvent | dispatch | disableEndpoint => exact ⟨rfl, rfl⟩
  | recordAttempt | marking => rw [hp] at h; exact h.elim

/-- An error of the holder: the statement took effect or not, and the worker goes on as `Phase.failed`
says. -/
theorem fault_sound {took : Bool} (others : ∀ k' ≠ k, w.phase k' = .idle) (opened : w.row.Open)
    (bound : w.row.attemptCount < maxDeliveryAttempts) (working : w.Working (w.phase k))
    (hu : Undisturbed w (.fault k d took)) : Sound (w.step (.fault k d took)) := by
  -- an error of a statement that writes nothing, or took no effect
  have htables (h : took = false ∨ match w.phase k with | .recordAttempt .. | .marking .. => False | _ => True) :
      (w.step (.fault k d took)).row = w.row ∧ (w.step (.fault k d took)).attempts = w.attempts := by
    cases took with
    | false => exact ⟨rfl, rfl⟩
    | true => exact exec_reads (h.resolve_left Bool.noConfusion)
  have hphase : (w.step (.fault k d took)).phase = Function.update w.phase k (w.phase k).failed := rfl
  have hleave := leave_sound (v := w.step (.fault k d took)) others bound working
  have hmove {p : Phase} := Sound.goto (v := w.step (.fault k d took)) (p := p) others opened bound
  cases hp : w.phase k with
  | idle => rw [hp] at working; exact working.elim
  | getEndpoint | getEvent =>
    obtain ⟨hrow, hattempts⟩ := htables (.inr (by rw [hp]; trivial))
    exact hleave (by rw [World.Unmarked, hp]; exact not_false) hrow hattempts (by rw [hphase, hp]; rfl)
  | dispatch c =>
    obtain ⟨hrow, hattempts⟩ := htables (.inr (by rw [hp]; trivial))
    rw [hp] at working hphase
    refine hmove hrow hphase ⟨?_, ?_⟩ <;> rw [hrow]
    · exact working.1
    · rw [hattempts]; exact working.2
  | recordAttempt c status =>
    have htook : took = false := by simpa only [Undisturbed, hp] using hu
    obtain ⟨hrow, hattempts⟩ := htables (.inl htook)
    exact hleave (by rw [World.Unmarked, hp]; exact not_false) hrow hattempts (by rw [hphase, hp]; rfl)
  | disableEndpoint c =>
    obtain ⟨hrow, hattempts⟩ := htables (.inr (by rw [hp]; trivial))
    rw [hp] at working hphase
    refine hmove hrow hphase ⟨?_, ?_, nofun⟩ <;> rw [hrow]
    · exact working.1
    · rw [hattempts]; exact working.2
  | marking c m =>
    cases took with
    | false =>
      have hm : ¬ w.Unmarked k := by simpa only [Undisturbed, hp, Bool.false_eq_true, false_or] using hu
      exact hleave hm rfl rfl (by rw [hphase, hp]; rfl)
    | true =>
      -- the mark took effect: the worker is where the statement would have brought it
      have hsame : w.step (.fault k d true) = w.exec k d := by
        simp only [World.step, World.exec, hp, Phase.failed, if_true, World.goto]
      rw [hsame]
      exact (exec_held others opened bound working).1

theorem step_sound {e : Event} (h : Sound w) (hu : Undisturbed w e) : Sound (w.step e) := by
  cases h with
  | free idle attempts bound =>
    cases e with
    | tick | setEndpoint => exact .free idle attempts bound
    | claim k lease =>
      rw [World.step]
      split
      · next hc =>
        have ho : w.row.Open := by
          have := hc.2
          simp only [Row.claimable, decide_eq_true_eq] at this
          exact this.1
        refine .held k (fun k' hk' => ?_) ho (bound ho) ?_
        · exact (Function.update_of_ne hk' _ _).trans (idle k')
        · have : (w.goto k (.getEndpoint w.row.attemptCount)).phase k = .getEndpoint w.row.attemptCount :=
            Function.update_self ..
          simp only [this]
          exact ⟨rfl, attempts ho⟩
      · exact .free idle attempts bound
    | advance k d =>
      rw [World.step, exec_idle (idle k)]
      exact .free idle attempts bound
    | fault k d took =>
      rw [fault_idle (idle k)]
      exact .free idle attempts bound
    | crash k =>
      rw [crash_idle (idle k)]
      exact .free idle attempts bound
  | held k others opened bound working =>
    have hheld : Sound w := .held k others opened bound working
    have hp : w.phase k ≠ .idle := fun hp => by rw [hp] at working; exact working
    cases e with
    | tick | setEndpoint => exact .held k others opened bound working
    | claim k' lease =>
      rw [World.step, if_neg fun hc => hp (hu hc.1 hc.2 k)]
      exact hheld
    | advance k' d =>
      rcases eq_or_ne k' k with rfl | hk'
      · exact (exec_held others opened bound working).1
      · rw [World.step, exec_idle (others k' hk')]
        exact hheld
    | fault k' d took =>
      rcases eq_or_ne k' k with rfl | hk'
      · exact fault_sound others opened bound working hu
      · rw [fault_idle (others k' hk')]
        exact hheld
    | crash k' =>
      rcases eq_or_ne k' k with rfl | hk'
      · exact leave_sound others bound working hu rfl rfl rfl
      · rw [crash_idle (others k' hk')]
        exact hheld

/-! ## The end of a delivery -/

/-- What has ended is not touched. -/
theorem step_ended {e : Event} (h : Sound w) (he : w.row.Ended) :
    (w.step e).row = w.row ∧ (w.step e).dispatched = w.dispatched := by
  have hidle := h.idle_of_ended he
  cases e with
  | tick | setEndpoint | crash => exact ⟨rfl, rfl⟩
  | claim k lease =>
    rw [World.step, if_neg]
    · exact ⟨rfl, rfl⟩
    · rintro ⟨-, hc⟩
      simp only [Row.claimable, decide_eq_true_eq] at hc
      exact he.not_open hc.1
  | advance k d => rw [World.step, exec_idle (hidle k)]; exact ⟨rfl, rfl⟩
  | fault k d took => simp only [World.step, exec_idle (hidle k), ite_self, and_self]

/-- A smooth step: passes are paid for by the count. -/
theorem step_passed {e : Event} (h : Sound w) (he : e.smooth) :
    (w.step e).row.Ended ∨ w.row.attemptCount + w.passed e ≤ (w.step e).row.attemptCount := by
  cases e with
  | tick | setEndpoint => exact .inr le_rfl
  | claim k lease =>
    right
    rw [World.step]
    split <;> exact le_rfl
  | fault | crash => exact he.elim
  | advance k d =>
    rw [World.step, World.passed]
    by_cases hp : w.phase k = .idle
    · right
      rw [exec_idle hp, if_neg fun hc => hc.1 hp]
      exact le_rfl
    cases h with
    | free idle _ _ => exact absurd (idle k) hp
    | held k' others opened bound working =>
      have hk : k = k' := by_contra fun hk => hp (others k hk)
      subst hk
      obtain ⟨-, hle, hpass⟩ := exec_held (d := d) others opened bound working
      split
      · next hc => exact (hpass he hc.2).imp_right Eq.ge
      · exact .inr hle

theorem run_ended {es : List Event} (h : Sound w) (hes : Along World.step Undisturbed w es) (he : w.row.Ended) :
    (run World.step w es).row = w.row ∧ (run World.step w es).dispatched = w.dispatched := by
  have hstep : ∀ (v : World) (e : Event), (Sound v ∧ v.row = w.row ∧ v.dispatched = w.dispatched) →
      Undisturbed v e →
      Sound (v.step e) ∧ (v.step e).row = w.row ∧ (v.step e).dispatched = w.dispatched := by
    rintro v e ⟨hv, hrow, hsent⟩ hu
    obtain ⟨hrow', hsent'⟩ := step_ended (e := e) hv (hrow ▸ he)
    exact ⟨step_sound hv hu, hrow'.trans hrow, hsent'.trans hsent⟩
  exact (run_inv_of_along hstep ⟨h, rfl, rfl⟩ hes).2

/-- A smooth run ends the delivery or counts its passes. -/
theorem run_passes {es : List Event} (h : Sound w) (hes : Along World.step Undisturbed w es)
    (hs : ∀ e ∈ es, e.smooth) :
    (run World.step w es).row.Ended ∨
      w.row.attemptCount + passes w es ≤ (run World.step w es).row.attemptCount := by
  induction es generalizing w with
  | nil => exact .inr le_rfl
  | cons e es ih =>
    have hsound := step_sound h hes.1
    rcases step_passed h (hs e List.mem_cons_self) with he | hle
    · left
      rw [run_cons, (run_ended hsound hes.2 he).1]
      exact he
    · refine (ih hsound hes.2 fun e' he' => hs e' (List.mem_cons_of_mem _ he')).imp_right fun hle' => ?_
      rw [run_cons, passes]
      omega

/-- **A delivery that nobody disturbs ends.** Take any undisturbed run from the creation of the delivery,
and any undisturbed continuation of it. If the delivery had ended, its row stays as it is and no request
is sent. If no statement of the continuation fails, the delivery has ended after `maxDeliveryAttempts`
passes. -/
theorem deliveries_end (clock : ℤ) (es fs : List Event)
    (hes : Along World.step Undisturbed (World.created clock) es)
    (hfs : Along World.step Undisturbed (run World.step (World.created clock) es) fs) :
    ((run World.step (World.created clock) es).row.Ended →
      (run World.step (World.created clock) (es ++ fs)).row = (run World.step (World.created clock) es).row ∧
      (run World.step (World.created clock) (es ++ fs)).dispatched =
        (run World.step (World.created clock) es).dispatched) ∧
    ((∀ e ∈ fs, e.smooth) → maxDeliveryAttempts ≤ passes (run World.step (World.created clock) es) fs →
      (run World.step (World.created clock) (es ++ fs)).row.Ended) := by
  have hsound : Sound (run World.step (World.created clock) es) :=
    run_inv_of_along (fun _ _ => step_sound) (Sound.created clock) hes
  rw [run_append]
  refine ⟨run_ended hsound hfs, fun hs hpasses => ?_⟩
  rcases Row.open_or_ended (run World.step (run World.step (World.created clock) es) fs).row with ho | he
  · have hbound := (run_inv_of_along (fun _ _ => step_sound) hsound hfs).bound ho
    exact (run_passes hsound hfs hs).resolve_right (by omega)
  · exact he

section Runs

/-- One pass to the attempt: the receiver answers `status`. -/
def Sample.toAttempt (k : WorkerID) (lease : ℤ) (status : Option ℕ) : List Event :=
  [.claim k lease] ++ List.replicate 4 (.advance k ⟨true, status, 0⟩)

/-- A delivered pass, then another poll. -/
theorem deliveries_end_delivered :
    (run World.step (World.created 0)
      (Sample.toAttempt 1 120 (some 200) ++ [.advance 1 ⟨true, none, 0⟩])).row.Ended ∧
    (run World.step (World.created 0)
      (Sample.toAttempt 1 120 (some 200) ++ [.advance 1 ⟨true, none, 0⟩]
        ++ [.tick 500, .claim 2 600])).dispatched = 1 := by
  refine ⟨.inl rfl, ?_⟩
  refine ((deliveries_end 0 _ [.tick 500, .claim 2 600] ?_ ?_).1 (.inl rfl)).2
  · exact ⟨fun _ _ _ => rfl, trivial, trivial, trivial, trivial, trivial, trivial⟩
  · exact ⟨trivial, fun _ hc => absurd hc (by decide), trivial⟩

/-- **An attempt without its mark blocks the delivery.** The first worker crashes between the attempt and
its mark. Twenty further passes, without an error or a crash, send twenty requests and leave the delivery
pending. -/
theorem unmarked_attempt_blocks :
    let fs := (List.range 20).flatMap fun i => .tick 200 :: Sample.toAttempt 2 (200 * i + 320) (some 200)
    let w := run World.step (World.created 0) (Sample.toAttempt 1 120 (some 500) ++ [.crash 1])
    (∀ e ∈ fs, e.smooth) ∧ passes w fs = 20 ∧ (run World.step w fs).row.status = .pending ∧
      (run World.step w fs).dispatched = 21 := by
  decide +kernel

end Runs

end Seev.Gateway.Delivery
