import Seev.Scheduling.Cluster
import Seev.Scheduling.Proof.Next

/-!
# One execution for a tick

A lock keeps a tick to one execution only while it is held. So a tick is executed once if every replica has
tried it by the time that the lock of its execution is given up or expires, and an execution gives up its own
lock if that has not expired.

* `Cluster.Passed`: no replica tries a tick any more; it stays so (`Passed.step`).
* `Moved`, `lock_cases`: what a step does to an execution and to the lock.
* `Inv`: the lock of a running execution that has not expired is in place, and an executed tick is past or its
  execution holds the lock.
* `ticks_executed_once`: the two properties, in runs in which every replica is in time.
* `tick_executed_twice`: both fail without.
-/

namespace Seev.Scheduling

open Lib

variable {R : Type} {C : Cluster R} {w : Replicas R} {k : ExecutionID} {T expires : ℤ} {x x' : Execution R}

/-- Whether the job was run. -/
def Execution.Executed (x : Execution R) : Prop := x.phase ≠ .spawned ∧ x.phase ≠ .skipped

instance (x : Execution R) : Decidable x.Executed := inferInstanceAs (Decidable (_ ∧ _))

/-- Every replica's clock has reached the tick, and the replica has tried it or will not try it. -/
structure Cluster.Passed (C : Cluster R) (w : Replicas R) (T : ℤ) : Prop where
  reached : ∀ r, T ≤ C.clock w r
  fired : ∀ r u, w.nextRun r = some u → T < u
  tried : ∀ x ∈ w.executions, x.tick = T → x.phase ≠ .spawned

/-- No two executions run the job for one tick. -/
def Replicas.Once (w : Replicas R) : Prop :=
  ∀ (k k' : ExecutionID) (x x' : Execution R), w.executions[k]? = some x → w.executions[k']? = some x' →
    x.Executed → x'.Executed →
    x.tick = x'.tick → k = k'

theorem getElem?_setPhase {i : ExecutionID} {p : Phase}
    (h : (w.setPhase i x p).executions[k]? = some x') :
    i = k ∧ x' = { x with phase := p } ∨ w.executions[k]? = some x' := by
  rw [Replicas.setPhase, List.getElem?_set] at h
  split at h
  · next heq =>
    split at h
    · cases h
      exact .inl ⟨heq, rfl⟩
    · cases h
  · exact .inr h

/-- The time until which an execution that runs has the lock. -/
def Phase.expires? : Phase → Option ℤ
  | .running expires => some expires
  | _ => none

theorem Phase.expires?_eq {p : Phase} : p.expires? = some expires ↔ p = .running expires := by
  cases p with
  | running t => simp [Phase.expires?]
  | _ => exact ⟨(fun h => nomatch h), fun h => nomatch h⟩

/-- In time: an execution unlocks before its lock has expired, and a lock is given up or expires when its tick
is past for every replica. -/
def Cluster.InTime (C : Cluster R) (w : Replicas R) : Event R → Prop
  | .advance d => ∀ entry ∈ w.lock, w.now < entry.expires → entry.expires ≤ w.now + d →
      ∀ x ∈ w.executions[entry.holder]?, C.Passed w x.tick
  | .tryLock _ _ => 0 < C.lockTTL
  | .unlock k _ => ∀ x ∈ w.executions[k]?, ∀ expires ∈ x.phase.expires?, w.now < expires ∧ C.Passed w x.tick
  | _ => True

instance [Fintype R] (C : Cluster R) (w : Replicas R) (T : ℤ) : Decidable (C.Passed w T) :=
  decidable_of_iff ((∀ r, T ≤ C.clock w r) ∧ (∀ r, ∀ u ∈ w.nextRun r, T < u) ∧
    ∀ x ∈ w.executions, x.tick = T → x.phase ≠ .spawned)
    ⟨fun h => ⟨h.1, h.2.1, h.2.2⟩, fun h => ⟨h.reached, h.fired, h.tried⟩⟩

instance [Fintype R] (C : Cluster R) (w : Replicas R) (e : Event R) : Decidable (C.InTime w e) := by
  unfold Cluster.InTime
  split <;> infer_instance

/-! ## The invariant -/

theorem locked_of_lt {entry : Entry} (h : w.lock = some entry) (hlt : w.now < entry.expires) :
    w.locked = true := by
  rw [Replicas.locked, h]
  simpa using hlt

/-- The lock is held by execution `k`. -/
def Replicas.HeldBy (w : Replicas R) (k : ExecutionID) : Prop :=
  ∃ entry, w.lock = some entry ∧ entry.holder = k ∧ w.now < entry.expires

structure Cluster.Inv (C : Cluster R) (w : Replicas R) : Prop where
  /-- a lock that has not expired is in place -/
  holds : ∀ (k : ExecutionID) (x : Execution R) expires, w.executions[k]? = some x → x.phase = .running expires →
    w.now < expires → ∃ entry, w.lock = some entry ∧ entry.holder = k ∧ entry.expires = expires
  /-- a tick that was executed is past, or the lock of its execution is held -/
  guarded : ∀ (k : ExecutionID) (x : Execution R), w.executions[k]? = some x → x.Executed →
    C.Passed w x.tick ∨ w.HeldBy k
  once : w.Once

theorem inv_init (C : Cluster R) (t : ℤ) : C.Inv (Replicas.init t) := by
  refine ⟨fun k x expires hx => ?_, fun k x hx => ?_, fun k k' x x' hx => ?_⟩
  all_goals
    rw [Replicas.init, List.getElem?_nil] at hx
    cases hx

/-- An execution that unlocks in time holds the lock. -/
theorem Cluster.Inv.unlock_own {failed : Bool} (h : C.Inv w)
    (htime : C.InTime w (.unlock k failed)) (hx : w.executions[k]? = some x)
    (hphase : x.phase = .running expires) :
    ∃ entry, w.lock = some entry ∧ entry.holder = k := by
  obtain ⟨entry, hlock, hholder, -⟩ :=
    h.holds k x expires hx hphase (htime x hx expires (Phase.expires?_eq.2 hphase)).1
  exact ⟨entry, hlock, hholder⟩

variable [DecidableEq R] {e : Event R}

/-- An unlock leaves the lock of another execution in place. -/
def Cluster.KeepsOthers (C : Cluster R) (w : Replicas R) : Event R → Prop
  | .unlock k failed => ∀ entry ∈ w.lock, entry.holder ≠ k → (C.step w (.unlock k failed)).lock = some entry
  | _ => True

/-! ## What a step does -/

inductive Cluster.Change (C : Cluster R) (w : Replicas R) : Event R → Replicas R → Prop
  | same (e : Event R) : C.Change w e w
  | advance (d : ℕ) : C.Change w (.advance d) { w with now := w.now + d }
  | start (r : R) :
      C.Change w (.start r) { w with nextRun := Function.update w.nextRun r (C.cron.next C.offset (C.clock w r)) }
  | fire (r : R) (tick : ℤ) (hnext : w.nextRun r = some tick) :
      C.Change w (.fire r)
        { w with
          nextRun := Function.update w.nextRun r (C.cron.next C.offset (C.clock w r))
          executions := w.executions ++ [⟨r, tick, .spawned⟩] }
  | skip (k : ExecutionID) (failed : Bool) (x : Execution R) :
    C.Change w (.tryLock k failed) (w.setPhase k x .skipped)
  | take (k : ExecutionID) (failed : Bool) (x : Execution R) (hx : w.executions[k]? = some x)
      (hphase : x.phase = .spawned) (hfree : w.locked = false) :
      C.Change w (.tryLock k failed)
        { w.setPhase k x (.running (w.now + C.lockTTL)) with
          lock := some ⟨C.instanceID x.replica, w.now + C.lockTTL, k⟩ }
  | unlock (k : ExecutionID) (failed : Bool) (x : Execution R) (expires : ℤ) (lock : Option Entry)
      (hx : w.executions[k]? = some x) (hphase : x.phase = .running expires) :
      C.Change w (.unlock k failed) { w.setPhase k x .done with lock := lock }
  | crash (r : R) :
      C.Change w (.crash r)
        { w with
          nextRun := Function.update w.nextRun r none
          executions :=
            w.executions.map fun x => if x.replica = r then { x with phase := x.phase.crashed } else x }

theorem change (C : Cluster R) (w : Replicas R) (e : Event R) : C.Change w e (C.step w e) := by
  cases e with
  | advance d => exact .advance d
  | start r =>
    rw [Cluster.step]
    split
    · exact .start r
    · exact .same _
  | fire r =>
    rw [Cluster.step]
    split
    · exact .same _
    · next tick hnext =>
      split
      · exact .same _
      · exact .fire r tick hnext
  | tryLock k failed =>
    rw [Cluster.step]
    split
    · next x hx =>
      split
      · next hphase =>
        rw [Cluster.tryLock]
        split
        · exact .skip k failed x
        · next hfree => exact .take k failed x hx hphase (by simp_all)
      · exact .same _
    · exact .same _
  | unlock k failed =>
    rw [Cluster.step]
    split
    · next x hx =>
      split
      · next expires hphase => exact .unlock k failed x expires _ hx hphase
      · exact .same _
    · exact .same _
  | crash r => exact .crash r

variable {w' : Replicas R}

theorem Cluster.Change.now_cases (h : C.Change w e w') :
    w'.now = w.now ∨ ∃ d, e = .advance d ∧ w'.now = w.now + d := by
  cases h with
  | advance d => exact .inr ⟨d, rfl, rfl⟩
  | _ => exact .inl rfl

theorem Cluster.Change.now_le (h : C.Change w e w') : w.now ≤ w'.now := by
  rcases h.now_cases with hnow | ⟨d, -, hnow⟩ <;> omega

theorem Cluster.Change.lock_cases (h : C.Change w e w') :
    w'.lock = w.lock ∨ (∃ k failed, e = .tryLock k failed ∧ w.locked = false) ∨
    ∃ k failed x expires, e = .unlock k failed ∧ w.executions[k]? = some x ∧ x.phase = .running expires := by
  cases h with
  | take k failed x hx hphase hfree => exact .inr (.inl ⟨k, failed, rfl, hfree⟩)
  | unlock k failed x expires lock hx hphase => exact .inr (.inr ⟨k, failed, x, expires, rfl, hx, hphase⟩)
  | _ => exact .inl rfl

/-- A `NextRun` that is new is later than the replica's clock. -/
theorem Cluster.Change.nextRun_cases (h : C.Change w e w') {r : R} {u : ℤ} (hu : w'.nextRun r = some u) :
    w.nextRun r = some u ∨ C.clock w r < u := by
  have hupdate : ∀ r', Function.update w.nextRun r' (C.cron.next C.offset (C.clock w r')) r = some u →
      w.nextRun r = some u ∨ C.clock w r < u := by
    intro r' hu
    by_cases heq : r = r'
    · rw [heq, Function.update_self] at hu
      exact .inr (heq ▸ next_lt hu)
    · rw [Function.update_of_ne heq] at hu
      exact .inl hu
  cases h with
  | start r' => exact hupdate r' hu
  | fire r' tick hnext => exact hupdate r' hu
  | crash r' =>
    by_cases heq : r = r'
    · simp [heq] at hu
    · simp only [Function.update_of_ne heq] at hu
      exact .inl hu
  | _ => exact .inl hu

/-- Execution `k` after a step, by what it was before. -/
inductive Cluster.Moved (C : Cluster R) (w w' : Replicas R) (e : Event R) (k : ExecutionID) (x' : Execution R) :
    Prop
  | same (h : w.executions[k]? = some x')
  | fired (r : R) (hnext : w.nextRun r = some x'.tick) (hphase : x'.phase = .spawned)
  | skipped (hphase : x'.phase = .skipped)
  | locked (x : Execution R) (failed : Bool) (he : e = .tryLock k failed) (hx : w.executions[k]? = some x)
      (hphase : x.phase = .spawned) (hfree : w.locked = false)
      (hx' : x' = { x with phase := .running (w.now + C.lockTTL) })
      (hlock : w'.lock = some ⟨C.instanceID x.replica, w.now + C.lockTTL, k⟩)
  | ended (x : Execution R) (expires : ℤ) (hx : w.executions[k]? = some x) (hphase : x.phase = .running expires)
      (hx' : x' = { x with phase := .done })

theorem Cluster.Change.moved (h : C.Change w e w') (hx' : w'.executions[k]? = some x') :
    C.Moved w w' e k x' := by
  cases h with
  | same | advance | start => exact .same hx'
  | fire r tick hnext =>
    dsimp only at hx'
    rw [List.getElem?_append] at hx'
    split at hx'
    · exact .same hx'
    · obtain rfl : x' = ⟨r, tick, .spawned⟩ := by simpa using List.mem_of_getElem? hx'
      exact .fired r hnext rfl
  | skip i failed x =>
    rcases getElem?_setPhase hx' with ⟨-, rfl⟩ | hold
    · exact .skipped rfl
    · exact .same hold
  | take i failed x hx hphase hfree =>
    rcases getElem?_setPhase hx' with ⟨rfl, rfl⟩ | hold
    · exact .locked x failed rfl hx hphase hfree rfl rfl
    · exact .same hold
  | unlock i failed x expires lock hx hphase =>
    rcases getElem?_setPhase hx' with ⟨rfl, rfl⟩ | hold
    · exact .ended x expires hx hphase rfl
    · exact .same hold
  | crash r =>
    dsimp only at hx'
    rw [List.getElem?_map, Option.map_eq_some_iff] at hx'
    obtain ⟨x, hx, rfl⟩ := hx'
    split
    · cases hphase : x.phase with
      | spawned | skipped => exact .skipped rfl
      | running expires => exact .ended x expires hx hphase rfl
      | done =>
        refine .same (hx.trans ?_)
        cases x
        cases hphase
        rfl
    · exact .same hx

theorem unlock_ends (hx : w.executions[k]? = some x)
    (hphase : x.phase = .running expires) (failed : Bool) :
    (C.step w (.unlock k failed)).executions[k]? = some { x with phase := .done } := by
  have hlt := (List.getElem?_eq_some_iff.1 hx).1
  rw [Cluster.step, hx]
  dsimp only
  rw [hphase]
  dsimp only [Replicas.setPhase]
  rw [List.getElem?_set_self hlt]

/-- **A tick that is past stays past.** -/
theorem Cluster.Passed.step (h : C.Passed w T) (e : Event R) : C.Passed (C.step w e) T := by
  refine ⟨fun r => ?_, fun r u hu => ?_, fun x hx htick hspawned => ?_⟩
  · have := h.reached r
    have := (change C w e).now_le
    unfold Cluster.clock at *
    omega
  · rcases (change C w e).nextRun_cases hu with hold | hnew
    · exact h.fired r u hold
    · exact Int.lt_of_le_of_lt (h.reached r) hnew
  · obtain ⟨k, hk⟩ := List.mem_iff_getElem?.1 hx
    cases (change C w e).moved hk with
    | same hold => exact h.tried x (List.mem_of_getElem? hold) htick hspawned
    | fired r hnext hphase =>
      have := h.fired r x.tick hnext
      omega
    | skipped hphase => rw [hphase] at hspawned; cases hspawned
    | locked y failed he hy hphase hfree hx hlock => rw [hx] at hspawned; cases hspawned
    | ended y expires hy hphase hx => rw [hx] at hspawned; cases hspawned

/-- An execution that has run the job after a step had before, or takes the lock in this step. -/
theorem executed_cases (h : (C.step w e).executions[k]? = some x') (hx' : x'.Executed) :
    ∃ x, w.executions[k]? = some x ∧ x.tick = x'.tick ∧
      (x.Executed ∨ ∃ failed entry, e = .tryLock k failed ∧ x.phase = .spawned ∧ w.locked = false ∧
        (C.step w e).lock = some entry ∧ entry.holder = k ∧ entry.expires = w.now + C.lockTTL) := by
  cases (change C w e).moved h with
  | same hold => exact ⟨x', hold, rfl, .inl hx'⟩
  | fired r hnext hphase => exact absurd hphase hx'.1
  | skipped hphase => exact absurd hphase hx'.2
  | locked x failed he hx hphase hfree hx' hlock =>
    exact ⟨x, hx, hx' ▸ rfl, .inr ⟨failed, _, he, hphase, hfree, hlock, rfl, rfl⟩⟩
  | ended x expires hx hphase hx' =>
    refine ⟨x, hx, hx' ▸ rfl, .inl ⟨?_, ?_⟩⟩
    · rw [hphase]; exact fun h => nomatch h
    · rw [hphase]; exact fun h => nomatch h

/-! ## The invariant is kept -/

/-- Who holds the lock keeps it, or its tick is past. -/
theorem Cluster.Inv.held_step (h : C.Inv w) (htime : C.InTime w e)
    (hx : w.executions[k]? = some x) (hheld : w.HeldBy k) :
    C.Passed w x.tick ∨ (C.step w e).HeldBy k := by
  obtain ⟨entry, hlock, rfl, hlt⟩ := hheld
  rcases (change C w e).lock_cases with hsame | ⟨-, -, -, hfree⟩ | ⟨i, failed, y, expires, rfl, hy, hphase⟩
  · rcases (change C w e).now_cases with hnow | ⟨d, rfl, hnow⟩
    · exact .inr ⟨entry, hsame.trans hlock, rfl, hnow ▸ hlt⟩
    · by_cases hexpired : entry.expires ≤ w.now + d
      · exact .inl (htime entry hlock hlt hexpired x hx)
      · exact .inr ⟨entry, hsame.trans hlock, rfl, by omega⟩
  · rw [locked_of_lt hlock hlt] at hfree
    cases hfree
  · -- the lock is that of the execution that unlocks
    obtain ⟨entry', hlock', rfl⟩ := h.unlock_own htime hy hphase
    rw [hlock] at hlock'
    cases hlock'
    rw [hx] at hy
    cases hy
    exact .inl (htime x hx expires (Phase.expires?_eq.2 hphase)).2

theorem Cluster.Inv.guarded_step (h : C.Inv w) (htime : C.InTime w e)
    (hx' : (C.step w e).executions[k]? = some x') (hexec : x'.Executed) :
    C.Passed (C.step w e) x'.tick ∨ (C.step w e).HeldBy k := by
  obtain ⟨x, hx, htick, hwas | ⟨failed, entry, rfl, -, -, hlock, hholder, hexpires⟩⟩ := executed_cases hx' hexec
  · rw [← htick]
    rcases h.guarded k x hx hwas with hpast | hheld
    · exact .inl (hpast.step e)
    · rcases h.held_step htime hx hheld with hpast | hheld
      · exact .inl (hpast.step e)
      · exact .inr hheld
  · refine .inr ⟨entry, hlock, hholder, ?_⟩
    rcases (change C w (.tryLock k failed)).now_cases with hnow | ⟨d, hd, -⟩
    · have httl : 0 < C.lockTTL := htime
      omega
    · cases hd

theorem Cluster.Inv.holds_step (h : C.Inv w) (htime : C.InTime w e)
    (hx' : (C.step w e).executions[k]? = some x') (hphase : x'.phase = .running expires)
    (hlt : (C.step w e).now < expires) :
    ∃ entry, (C.step w e).lock = some entry ∧ entry.holder = k ∧ entry.expires = expires := by
  cases (change C w e).moved hx' with
  | same hx =>
    obtain ⟨entry, hlock, rfl, rfl⟩ :=
      h.holds k x' expires hx hphase (Int.lt_of_le_of_lt (change C w e).now_le hlt)
    rcases (change C w e).lock_cases with hsame | ⟨-, -, -, hfree⟩ | ⟨i, failed, y, expires, rfl, hy, hphase'⟩
    · exact ⟨entry, hsame.trans hlock, rfl, rfl⟩
    · rw [locked_of_lt hlock (Int.lt_of_le_of_lt (change C w e).now_le hlt)] at hfree
      cases hfree
    · -- an unlock of its own lock would have ended it
      obtain ⟨entry', hlock', rfl⟩ := h.unlock_own htime hy hphase'
      rw [hlock] at hlock'
      cases hlock'
      rw [unlock_ends hy hphase'] at hx'
      cases hx'
      cases hphase
  | fired r hnext hspawned => rw [hspawned] at hphase; cases hphase
  | skipped hskip => rw [hskip] at hphase; cases hphase
  | locked x failed he hx hspawned hfree hx' hlock =>
    rw [hx'] at hphase
    cases hphase
    exact ⟨_, hlock, rfl, rfl⟩
  | ended x expires hx hrunning hx' => rw [hx'] at hphase; cases hphase

theorem Cluster.Inv.once_step (h : C.Inv w) : (C.step w e).Once := by
  -- an execution that takes the lock has a tick that was not executed
  have hfresh : ∀ {k k' : ExecutionID} {x y : Execution R}, w.executions[k]? = some x → x.phase = .spawned →
      w.locked = false → w.executions[k']? = some y → y.Executed → x.tick ≠ y.tick := by
    intro k k' x y hx hspawned hfree hy hexec heq
    rcases h.guarded k' y hy hexec with hpast | ⟨entry, hlock, -, hlt⟩
    · exact hpast.tried x (List.mem_of_getElem? hx) heq hspawned
    · rw [locked_of_lt hlock hlt] at hfree
      cases hfree
  intro k k' x x' hx hx' hexec hexec' htick
  obtain ⟨y, hy, hyt, hwas⟩ := executed_cases hx hexec
  obtain ⟨y', hy', hyt', hwas'⟩ := executed_cases hx' hexec'
  have heq : y.tick = y'.tick := hyt.trans (htick.trans hyt'.symm)
  rcases hwas with hwas | ⟨failed, -, he, hspawned, hfree, -⟩
  · rcases hwas' with hwas' | ⟨failed', -, he', hspawned', hfree', -⟩
    · exact h.once k k' y y' hy hy' hwas hwas' heq
    · exact absurd heq.symm (hfresh hy' hspawned' hfree' hy hwas)
  · rcases hwas' with hwas' | ⟨failed', -, he', -⟩
    · exact absurd heq (hfresh hy hspawned hfree hy' hwas')
    · rw [he] at he'
      cases he'
      rfl

theorem Cluster.Inv.step (h : C.Inv w) (htime : C.InTime w e) : C.Inv (C.step w e) where
  holds := fun _ _ _ hx hphase hlt => h.holds_step htime hx hphase hlt
  guarded := fun _ _ hx hexec => h.guarded_step htime hx hexec
  once := h.once_step

theorem Cluster.Inv.keepsOthers (h : C.Inv w) (htime : C.InTime w e) : C.KeepsOthers w e := by
  cases e with
  | unlock k failed =>
    intro entry hlock hother
    rcases (change C w (.unlock k failed)).lock_cases with hsame | ⟨i, failed', he, -⟩
      | ⟨i, failed', x, expires, he, hx, hphase⟩
    · exact hsame.trans hlock
    · cases he
    · cases he
      obtain ⟨entry', hlock', hholder⟩ := h.unlock_own htime hx hphase
      rw [hlock] at hlock'
      cases hlock'
      exact absurd hholder hother
  | _ => trivial

/-- **A tick is executed at most once, and an unlock leaves the locks of others in place**, in every run in
which every step is in time. -/
theorem ticks_executed_once (C : Cluster R) (t : ℤ) (es : List (Event R))
    (h : Along C.step C.InTime (Replicas.init t) es) :
    (run C.step (Replicas.init t) es).Once ∧ Along C.step C.KeepsOthers (Replicas.init t) es :=
  ⟨(run_inv_of_along (fun _ _ hinv htime => hinv.step htime) (inv_init C t) h).once,
    Along.of_inv (fun _ _ hinv htime => hinv.step htime) (fun _ _ hinv htime => hinv.keepsOthers htime)
      (inv_init C t) h⟩

namespace Hourly

/-- Every full hour. -/
def spec : List Char := "0 * * * *".toList

def cron : Cron where
  minutes := { values := [0], wildcard := false }
  hours := { values := interval 0 23, wildcard := true }
  dom := { wildcard := true, values := [], lastOffsets := [], nearestW := [], hasLW := false }
  month := { values := interval 1 12, wildcard := true }
  dow := { wildcard := true, values := [], lastDow := [], nthDow := [] }

/-- Two replicas, the second of which has a clock that is five seconds late. -/
def cluster : Cluster (Fin 2) where
  cron := cron
  offset := 0
  timeout := 5 * minute
  locker := .redis
  instanceID := fun r => if r = 0 then "a" else "b"
  skew := fun r => if r = 0 then 0 else -5 * second

/-- A number of seconds. -/
def seconds (n : ℕ) : Event (Fin 2) := .advance (n * 10 ^ 9)

def init : Replicas (Fin 2) := .init (10 * second)

/-- Both replicas try the tick at one o'clock while the first one's execution runs. -/
def inTime : List (Event (Fin 2)) :=
  [.start 0, .start 1, seconds 3590, .fire 0, .tryLock 0 false, seconds 5, .fire 1, .tryLock 1 false, seconds 60,
    .unlock 0 false]

/-- The execution of the first replica is over, after one second, when the second one's clock reaches the tick. -/
def early : List (Event (Fin 2)) :=
  [.start 0, .start 1, seconds 3590, .fire 0, .tryLock 0 false, seconds 1, .unlock 0 false, seconds 4, .fire 1,
    .tryLock 1 false]

/-- An execution runs for more than an hour, and the next one of the replica has taken the lock. -/
def long : List (Event (Fin 2)) :=
  [.start 0, seconds 3590, .fire 0, .tryLock 0 false, seconds 3600, .fire 0, .tryLock 1 false, seconds 10]

end Hourly

theorem ticks_executed_once_hourly :
    Along Hourly.cluster.step Hourly.cluster.InTime (Replicas.init (10 * second)) Hourly.inTime ∧
    (run Hourly.cluster.step (Replicas.init (10 * second)) Hourly.inTime).Once :=
  have h : Along Hourly.cluster.step Hourly.cluster.InTime (Replicas.init (10 * second)) Hourly.inTime := by
    decide +kernel
  ⟨h, (ticks_executed_once Hourly.cluster (10 * second) Hourly.inTime h).1⟩

/-- One tick is executed by both replicas, and an unlock releases the lock of another execution, where the
clocks differ by five seconds and the period is an hour. -/
theorem tick_executed_twice :
    parseCron Hourly.spec = .ok Hourly.cron ∧
    (∀ r s, Hourly.cluster.skew r - Hourly.cluster.skew s < hour) ∧
    ¬ (run Hourly.cluster.step Hourly.init Hourly.early).Once ∧
    ¬ Hourly.cluster.KeepsOthers (run Hourly.cluster.step Hourly.init Hourly.long) (.unlock 0 false) := by
  have htwice : (run Hourly.cluster.step Hourly.init Hourly.early).executions =
      [⟨0, hour, .done⟩, ⟨1, hour, .running (hour + 315 * second)⟩] := by decide +kernel
  have hlock : (run Hourly.cluster.step Hourly.init Hourly.long).lock =
      some ⟨"a", 2 * hour + 310 * second, 1⟩ := by
    decide +kernel
  have hreleased : (Hourly.cluster.step (run Hourly.cluster.step Hourly.init Hourly.long)
    (.unlock 0 false)).lock =
      none := by decide +kernel
  refine ⟨by decide +kernel, by decide, fun h => ?_, fun h => ?_⟩
  · rw [Replicas.Once, htwice] at h
    cases h 0 1 _ _ rfl rfl (by decide) (by decide) rfl
  · have := h _ hlock (by decide)
    rw [hreleased] at this
    cases this

end Seev.Scheduling
