import Seev.Auth.Closure
import Seev.Lib.Slots

/-!
# The closure saga moves forward

Neither the status updates nor the write of `owner_checkpoints` look at what they overwrite. That the saga moves
forward is therefore a matter of one worker at a time; that the owners commit only after all of them prepared is
not, since the record of a successful `Prepare` outlives every interleaving.

* `prepared_step`: `Commit` is called only after every `Prepare` succeeded, in any run.
* `saga_forward`: in a run whose claims find no worker at work, the status advances and no checkpoint is lost.
* `not_stranded`, `blocked_strands`: the user of a saga that finds no blocker, and that of one that does.
-/

namespace Seev.Auth.Closure

open Lib

variable {O : Type*} {all : List O} {phase : Phase}

/-! ## Commits come after the prepares -/

/-- Every owner's `Prepare` succeeded. -/
def AllPrepared (all : List O) (calls : List (Call O)) : Prop := ∀ o ∈ all, Call.prepared o ∈ calls

/-- The checkpoints of phase `prepared` stand for successful calls. -/
def Backed (c : O → Option Phase) (calls : List (Call O)) : Prop :=
  ∀ o, c o = some .prepared → Call.prepared o ∈ calls

/-- What a worker relies on, in terms of the calls. -/
def Pc.Backed (all : List O) (calls : List (Call O)) : Pc O → Prop
  | .loadClosureCheckpoints .committed => AllPrepared all calls
  | .owners .prepared loaded blocked rest =>
    Closure.Backed loaded calls ∧ (blocked = false → ∀ o ∈ all, o ∈ rest ∨ Call.prepared o ∈ calls)
  | .owners .committed _ _ _ => AllPrepared all calls
  | .checkpointRead .prepared loaded blocked owner rest =>
    Closure.Backed loaded calls ∧ (blocked = false → ∀ o ∈ all, o ∈ rest ∨ Call.prepared o ∈ calls) ∧
      Call.prepared owner ∈ calls
  | .checkpointRead .committed _ _ _ _ => AllPrepared all calls
  | .checkpointWrite .prepared loaded blocked merged rest =>
    Closure.Backed loaded calls ∧ (blocked = false → ∀ o ∈ all, o ∈ rest ∨ Call.prepared o ∈ calls) ∧
      Closure.Backed merged calls
  | .checkpointWrite .committed _ _ merged _ => AllPrepared all calls ∧ Closure.Backed merged calls
  | .closureAdvanceStatus _ => AllPrepared all calls
  | .closureStepFinalize => AllPrepared all calls
  | _ => True

/-- Before every `Commit` in the record stands a successful `Prepare` of every owner. -/
def CommitsAfterPrepares (all : List O) (calls : List (Call O)) : Prop :=
  ∀ before o after, calls = before ++ Call.commit o :: after → AllPrepared all before

structure Prepared (all : List O) (r : Request O) : Prop where
  status : r.status = .preparing ∨ r.status = .committing → AllPrepared all r.calls
  checkpoints : Backed r.ownerCheckpoints r.calls
  workers : ∀ pc ∈ r.workers, pc.Backed all r.calls
  commits : CommitsAfterPrepares all r.calls

variable {calls calls' : List (Call O)} {r : Request O} {pc : Pc O}

theorem AllPrepared.mono (h : AllPrepared all calls) (hsub : calls ⊆ calls') : AllPrepared all calls' :=
  fun o ho => hsub (h o ho)

theorem Backed.mono {c : O → Option Phase} (h : Backed c calls) (hsub : calls ⊆ calls') : Backed c calls' :=
  fun o ho => hsub (h o ho)

theorem Pc.Backed.mono (h : pc.Backed all calls) (hsub : calls ⊆ calls') : pc.Backed all calls' := by
  have hrest : ∀ rest : List O, (∀ o ∈ all, o ∈ rest ∨ Call.prepared o ∈ calls) →
      ∀ o ∈ all, o ∈ rest ∨ Call.prepared o ∈ calls' :=
    fun rest hr o ho => (hr o ho).imp_right fun hm => hsub hm
  cases pc with
  | loadClosureCheckpoints phase =>
    cases phase with
    | prepared => trivial
    | committed => exact AllPrepared.mono h hsub
  | owners phase loaded blocked rest =>
    cases phase with
    | prepared => exact ⟨h.1.mono hsub, fun hb => hrest rest (h.2 hb)⟩
    | committed => exact AllPrepared.mono h hsub
  | checkpointRead phase loaded blocked owner rest =>
    cases phase with
    | prepared => exact ⟨h.1.mono hsub, fun hb => hrest rest (h.2.1 hb), hsub h.2.2⟩
    | committed => exact AllPrepared.mono h hsub
  | checkpointWrite phase loaded blocked merged rest =>
    cases phase with
    | prepared => exact ⟨h.1.mono hsub, fun hb => hrest rest (h.2.1 hb), h.2.2.mono hsub⟩
    | committed => exact ⟨h.1.mono hsub, h.2.mono hsub⟩
  | closureAdvanceStatus | closureStepFinalize => exact AllPrepared.mono h hsub
  | localClosureBlockers | block | retryRead | retryWrite _ | returned => trivial

theorem CommitsAfterPrepares.prepared (h : CommitsAfterPrepares all calls) (o : O) :
    CommitsAfterPrepares all (calls ++ [.prepared o]) := by
  intro before o' after heq
  rcases List.append_eq_append_iff.mp heq with ⟨m, hb, hm⟩ | ⟨m, hc, hm⟩
  · -- the commit would be the call that was added
    cases m <;> simp at hm
  · cases m with
    | nil => simp at hm
    | cons x m =>
      rw [List.cons_append, List.cons.injEq] at hm
      exact h before o' m (by rw [hc, ← hm.1])

theorem CommitsAfterPrepares.commit (h : CommitsAfterPrepares all calls) (hall : AllPrepared all calls) (o : O) :
    CommitsAfterPrepares all (calls ++ [.commit o]) := by
  intro before o' after heq
  rcases List.append_eq_append_iff.mp heq with ⟨m, hb, hm⟩ | ⟨m, hc, hm⟩
  · rw [hb]
    exact hall.mono (List.subset_append_left _ _)
  · cases m with
    | nil =>
      rw [List.append_nil] at hc
      rwa [← hc]
    | cons x m =>
      rw [List.cons_append, List.cons.injEq] at hm
      exact h before o' m (by rw [hc, ← hm.1])

/-- What a statement leaves: the next statement of the worker, and the request. -/
structure Prepared.Keeps (all : List O) (r : Request O) (next : Pc O × Request O) : Prop where
  calls : r.calls ⊆ next.2.calls
  worker : next.1.Backed all next.2.calls
  status : next.2.status = .preparing ∨ next.2.status = .committing → AllPrepared all next.2.calls
  checkpoints : Closure.Backed next.2.ownerCheckpoints next.2.calls
  commits : CommitsAfterPrepares all next.2.calls

/-- A statement that changes neither the status nor the checkpoints, and calls no owner. -/
theorem Prepared.same (h : Prepared all r) (hpc : pc.Backed all r.calls) : Prepared.Keeps all r (pc, r) :=
  ⟨List.Subset.refl _, hpc, h.status, h.checkpoints, h.commits⟩

theorem firstStatement_backed (h : Prepared all r) {pc : Pc O} (hpc : firstStatement r.status = some pc) :
    pc.Backed all r.calls := by
  have hs := h.status
  cases hst : r.status <;> rw [hst] at hpc hs <;>
    simp only [firstStatement, Option.some.injEq, reduceCtorEq] at hpc
  · subst hpc
    trivial
  · subst hpc
    exact hs (.inl rfl)
  · subst hpc
    exact hs (.inr rfl)

theorem prepared_created : Prepared all (Request.created (O := O)) where
  status := by simp [Request.created]
  checkpoints := by intro o ho; simp [Request.created] at ho
  workers := by intro pc hpc; exact absurd hpc List.not_mem_nil
  commits := by intro before o after heq; simp [Request.created] at heq

section Statement

variable [DecidableEq O]

theorem Backed.update {c : O → Option Phase} (h : Backed c calls) {o : O}
    (ho : phase = .prepared → Call.prepared o ∈ calls) : Backed (Function.update c o (some phase)) calls := by
  intro o' ho'
  by_cases heq : o' = o
  · subst heq
    rw [Function.update_self] at ho'
    exact ho (Option.some.inj ho')
  · rw [Function.update_of_ne heq] at ho'
    exact h o' ho'

theorem exec_workers (pc : Pc O) (a : Answer) : (r.exec all pc a).2.workers = r.workers := by
  unfold Request.exec
  split
  case h_6 =>
    split
    · rfl
    · split <;> rfl
  case h_14 => dsimp only; split <;> rfl
  all_goals rfl

/-- One turn of the loop over the owners. -/
theorem owners_prepared (h : Prepared all r) {loaded : O → Option Phase} {blocked : Bool} {rest : List O}
    (hpc : (Pc.owners phase loaded blocked rest).Backed all r.calls) (a : Answer) :
    Prepared.Keeps all r (r.exec all (.owners phase loaded blocked rest) a) := by
  cases rest with
  | nil =>
    cases phase with
    | prepared =>
      cases blocked with
      | true => exact h.same trivial
      | false =>
        have hall : AllPrepared all r.calls := fun o ho => (hpc.2 rfl o ho).resolve_left List.not_mem_nil
        exact h.same hall
    | committed => exact h.same hpc
  | cons owner rest =>
    simp only [Request.exec]
    by_cases hl : loaded owner = some phase
    · rw [if_pos hl]
      cases phase with
      | prepared =>
        refine h.same ⟨hpc.1, fun hb o ho => ?_⟩
        rcases hpc.2 hb o ho with hm | hm
        · rcases List.mem_cons.mp hm with rfl | hm
          · exact .inr (hpc.1 o hl)
          · exact .inl hm
        · exact .inr hm
      | committed => exact h.same hpc
    · rw [if_neg hl]
      cases phase with
      | prepared =>
        cases a with
        | ok =>
          have hsub : r.calls ⊆ r.calls ++ [.prepared owner] := List.subset_append_left _ _
          have hown : Call.prepared owner ∈ r.calls ++ [.prepared owner] := by simp
          refine ⟨hsub, ⟨hpc.1.mono hsub, fun hb o ho => ?_, hown⟩, fun hs => (h.status hs).mono hsub,
            h.checkpoints.mono hsub, h.commits.prepared owner⟩
          rcases hpc.2 hb o ho with hm | hm
          · rcases List.mem_cons.mp hm with rfl | hm
            · exact .inr hown
            · exact .inl hm
          · exact .inr (hsub hm)
        | blocked => exact h.same ⟨hpc.1, fun hb => nomatch hb⟩
        | error => exact h.same trivial
      | committed =>
        have hall : AllPrepared all r.calls := hpc
        have hsub : r.calls ⊆ r.calls ++ [.commit owner] := List.subset_append_left _ _
        cases a with
        | ok =>
          exact ⟨hsub, hall.mono hsub, fun _ => hall.mono hsub, h.checkpoints.mono hsub,
            h.commits.commit hall owner⟩
        | blocked | error =>
          exact ⟨hsub, trivial, fun _ => hall.mono hsub, h.checkpoints.mono hsub, h.commits.commit hall owner⟩

theorem exec_prepared (h : Prepared all r) (hpc : pc.Backed all r.calls) (a : Answer) :
    Prepared.Keeps all r (r.exec all pc a) := by
  cases pc with
  | localClosureBlockers | retryRead | returned => cases a <;> exact h.same trivial
  | loadClosureCheckpoints phase =>
    cases a with
    | ok =>
      cases phase with
      | prepared => exact h.same ⟨h.checkpoints, fun _ o ho => .inl ho⟩
      | committed => exact h.same hpc
    | blocked | error => exact h.same trivial
  | owners phase loaded blocked rest => exact owners_prepared h hpc a
  | checkpointRead phase loaded blocked owner rest =>
    cases a with
    | ok =>
      cases phase with
      | prepared => exact h.same ⟨hpc.1, hpc.2.1, h.checkpoints.update fun _ => hpc.2.2⟩
      | committed => exact h.same ⟨hpc, h.checkpoints.update fun hp => nomatch hp⟩
    | blocked | error => exact h.same trivial
  | checkpointWrite phase loaded blocked merged rest =>
    cases a with
    | ok =>
      cases phase with
      | prepared => exact ⟨List.Subset.refl _, ⟨hpc.1, hpc.2.1⟩, h.status, hpc.2.2, h.commits⟩
      | committed => exact ⟨List.Subset.refl _, hpc.1, h.status, hpc.2, h.commits⟩
    | blocked | error => exact h.same trivial
  | block =>
    cases a with
    | ok => exact ⟨List.Subset.refl _, trivial, fun hs => by simp [Request.exec] at hs, h.checkpoints, h.commits⟩
    | blocked | error => exact h.same trivial
  | closureAdvanceStatus | closureStepFinalize =>
    cases a with
    | ok => exact ⟨List.Subset.refl _, trivial, fun _ => hpc, h.checkpoints, h.commits⟩
    | blocked | error => exact h.same trivial
  | retryWrite n =>
    cases a with
    | ok =>
      simp only [Request.exec]
      by_cases hn : closureMaxRetries ≤ n
      · rw [if_pos hn]
        exact ⟨List.Subset.refl _, trivial, fun hs => by simp at hs, h.checkpoints, h.commits⟩
      · rw [if_neg hn]
        exact ⟨List.Subset.refl _, trivial, h.status, h.checkpoints, h.commits⟩
    | blocked | error => exact h.same trivial

/-- **Every `Commit` comes after the `Prepare` of every owner**, whatever the workers of the request do. -/
theorem prepared_step (r : Request O) (e : SagaEvent) (h : Prepared all r) : Prepared all (r.step all e) := by
  cases e with
  | claim =>
    simp only [Request.step]
    split
    · rename_i pc hpc
      exact ⟨h.status, h.checkpoints, forall_start h.workers (firstStatement_backed h hpc), h.commits⟩
    · exact h
  | work k a =>
    simp only [Request.step]
    split
    · rename_i pc hk
      have hkeeps := exec_prepared h (h.workers pc (List.mem_of_getElem? hk)) a
      refine ⟨hkeeps.status, hkeeps.checkpoints, ?_, hkeeps.commits⟩
      rw [exec_workers]
      exact forall_step (fun q hq => (h.workers q hq).mono hkeeps.calls) hkeeps.worker
    · exact h
  | crash k =>
    exact ⟨h.status, h.checkpoints, forall_step h.workers trivial, h.commits⟩

end Statement

/-! ## One worker at a time -/

/-- How far a request is. -/
def Status.rank : Status → ℕ
  | .pending => 0
  | .preparing => 1
  | .committing => 2
  | .completed => 3
  | .blocked => 3
  | .dead => 3

/-- A status stays or advances; completed, blocked and dead are final. -/
def Status.Forward (s s' : Status) : Prop := s' = s ∨ (s.active = true ∧ s.rank < s'.rank)

/-- A recorded checkpoint stays, but for a prepared owner that has committed. -/
def CheckpointsKept (c c' : O → Option Phase) : Prop :=
  ∀ o phase, c o = some phase → c' o = some phase ∨ c' o = some .committed

def Request.Forward (r r' : Request O) : Prop :=
  r.status.Forward r'.status ∧ CheckpointsKept r.ownerCheckpoints r'.ownerCheckpoints

/-- A claim finds no worker at work on the request. -/
def Request.Alone (r : Request O) (e : SagaEvent) : Prop := e = .claim → r.workers.all (!·.running)

instance (r : Request O) (e : SagaEvent) : Decidable (r.Alone e) :=
  inferInstanceAs (Decidable (e = .claim → r.workers.all (!·.running)))

/-- The status in which the step of a worker was taken. -/
def Phase.status : Phase → Status
  | .prepared => .pending
  | .committed => .preparing

/-- A worker that has the request for itself. -/
def Pc.Fits (status : Status) (c : O → Option Phase) : Pc O → Prop
  | .localClosureBlockers => status = .pending
  | .loadClosureCheckpoints phase => status = phase.status
  | .owners phase _ _ _ => status = phase.status
  | .checkpointRead phase _ _ _ _ => status = phase.status
  | .checkpointWrite phase _ _ merged _ =>
    status = phase.status ∧ ∃ o, merged o = some phase ∧ ∀ o', o' ≠ o → merged o' = c o'
  | .block => status = .pending
  | .closureAdvanceStatus next => status.active = true ∧ status.rank < next.rank ∧ next ≠ .pending
  | .closureStepFinalize => status = .committing
  | .retryRead => status.active = true
  | .retryWrite _ => status.active = true
  | .returned => True

/-- No owner has committed while the request is pending. -/
def Uncommitted (status : Status) (c : O → Option Phase) : Prop := status = .pending → ∀ o, c o ≠ some .committed

structure Single (r : Request O) : Prop where
  single : AtMostOne Pc.running r.workers
  fits : ∀ pc ∈ r.workers, pc.Fits r.status r.ownerCheckpoints
  uncommitted : Uncommitted r.status r.ownerCheckpoints

theorem Status.Forward.refl (s : Status) : s.Forward s := .inl rfl

theorem CheckpointsKept.refl (c : O → Option Phase) : CheckpointsKept c c := fun _ _ h => .inl h

/-- What a statement of the only worker leaves. -/
structure Single.Keeps (r : Request O) (next : Pc O × Request O) : Prop where
  forward : r.Forward next.2
  worker : next.1.Fits next.2.status next.2.ownerCheckpoints
  uncommitted : Uncommitted next.2.status next.2.ownerCheckpoints

/-- A statement that changes nothing of the request. -/
theorem Single.same (h : Single r) (hpc : pc.Fits r.status r.ownerCheckpoints) : Single.Keeps r (pc, r) :=
  ⟨⟨.refl _, .refl _⟩, hpc, h.uncommitted⟩

/-- A call of an owner. -/
theorem Single.called (h : Single r) (c : Call O) (hpc : pc.Fits r.status r.ownerCheckpoints) :
    Single.Keeps r (pc, { r with calls := r.calls ++ [c] }) :=
  ⟨⟨.refl _, .refl _⟩, hpc, h.uncommitted⟩

theorem Phase.status_active (phase : Phase) : phase.status.active = true := by cases phase <;> rfl

/-- Writing one checkpoint keeps the others, and never takes back a commit. -/
theorem Single.write (h : Single r) (hs : r.status = phase.status) {o : O} {merged : O → Option Phase}
    (ho : merged o = some phase) (hm : ∀ o', o' ≠ o → merged o' = r.ownerCheckpoints o') :
    CheckpointsKept r.ownerCheckpoints merged ∧ Uncommitted r.status merged := by
  constructor
  · intro o' phase' ho'
    by_cases heq : o' = o
    · subst heq
      rw [ho]
      cases phase with
      | committed => exact .inr rfl
      | prepared =>
        cases phase' with
        | prepared => exact .inl rfl
        -- a step that prepares finds no commit to overwrite
        | committed => exact absurd ho' (h.uncommitted hs o')
    · rw [hm o' heq]
      exact .inl ho'
  · intro hp o'
    by_cases heq : o' = o
    · subst heq
      rw [ho]
      cases phase with
      | prepared => simp
      | committed =>
        rw [hp] at hs
        exact nomatch hs
    · rw [hm o' heq]
      exact h.uncommitted hp o'

theorem Pc.of_not_running (h : pc.running = false) : pc = .returned := by
  cases pc <;> first | rfl | exact nomatch h

theorem single_created : Single (Request.created (O := O)) where
  single := AtMostOne.nil
  fits := by intro pc hpc; exact absurd hpc List.not_mem_nil
  uncommitted := by intro _ o; simp [Request.created]

variable [DecidableEq O]

theorem owners_forward (all : List O) (h : Single r) {loaded : O → Option Phase} {blocked : Bool}
    {rest : List O} (hs : r.status = phase.status) (a : Answer) :
    Single.Keeps r (r.exec all (.owners phase loaded blocked rest) a) := by
  have hretry : r.status.active = true := by rw [hs]; exact phase.status_active
  cases rest with
  | nil =>
    cases phase with
    | prepared =>
      cases blocked with
      | true => exact h.same hs
      | false =>
        have hpc : (Pc.closureAdvanceStatus .preparing : Pc O).Fits r.status r.ownerCheckpoints :=
          ⟨hretry, by rw [hs]; decide, by decide⟩
        exact h.same hpc
    | committed =>
      have hpc : (Pc.closureAdvanceStatus .committing : Pc O).Fits r.status r.ownerCheckpoints :=
        ⟨hretry, by rw [hs]; decide, by decide⟩
      exact h.same hpc
  | cons owner rest =>
    simp only [Request.exec]
    by_cases hl : loaded owner = some phase
    · rw [if_pos hl]
      exact h.same hs
    · rw [if_neg hl]
      cases phase with
      | prepared =>
        cases a with
        | ok => exact h.called (.prepared owner) hs
        | blocked => exact h.same hs
        | error => exact h.same hretry
      | committed =>
        cases a with
        | ok => exact h.called (.commit owner) hs
        | blocked | error => exact h.called (.commit owner) hretry

theorem exec_forward (all : List O) (h : Single r) (hpc : pc.Fits r.status r.ownerCheckpoints) (a : Answer) :
    Single.Keeps r (r.exec all pc a) := by
  cases pc with
  | localClosureBlockers =>
    have hs : r.status = .pending := hpc
    cases a with
    | ok | blocked => exact h.same hpc
    | error =>
      have hactive : r.status.active = true := by rw [hs]; rfl
      exact h.same hactive
  | loadClosureCheckpoints | retryRead =>
    cases a with
    | ok => exact h.same hpc
    | blocked | error => exact h.same trivial
  | owners phase loaded blocked rest => exact owners_forward all h hpc a
  | checkpointRead phase loaded blocked owner rest =>
    cases a with
    | ok => exact h.same ⟨hpc, owner, Function.update_self .., fun o' ho' => Function.update_of_ne ho' ..⟩
    | blocked | error => exact h.same trivial
  | checkpointWrite phase loaded blocked merged rest =>
    obtain ⟨hs, o, ho, hm⟩ := hpc
    obtain ⟨hkept, hunc⟩ := h.write hs ho hm
    cases a with
    | ok => exact ⟨⟨.refl _, hkept⟩, hs, hunc⟩
    | blocked | error => exact h.same trivial
  | block =>
    have hs : r.status = .pending := hpc
    have hactive : r.status.active = true := by rw [hs]; rfl
    have hrank : r.status.rank < Status.rank .blocked := by rw [hs]; decide
    cases a with
    | ok => exact ⟨⟨.inr ⟨hactive, hrank⟩, .refl _⟩, trivial, fun hp => nomatch hp⟩
    | blocked | error => exact h.same trivial
  | closureAdvanceStatus next =>
    obtain ⟨hactive, hrank, hne⟩ := hpc
    cases a with
    | ok => exact ⟨⟨.inr ⟨hactive, hrank⟩, .refl _⟩, trivial, fun hp => absurd hp hne⟩
    | blocked | error => exact h.same trivial
  | closureStepFinalize =>
    have hs : r.status = .committing := hpc
    have hactive : r.status.active = true := by rw [hs]; rfl
    have hrank : r.status.rank < Status.rank .completed := by rw [hs]; decide
    cases a with
    | ok => exact ⟨⟨.inr ⟨hactive, hrank⟩, .refl _⟩, trivial, fun hp => nomatch hp⟩
    | blocked | error => exact h.same hactive
  | retryWrite n =>
    have hactive : r.status.active = true := hpc
    cases a with
    | ok =>
      simp only [Request.exec]
      by_cases hn : closureMaxRetries ≤ n
      · rw [if_pos hn]
        have hrank : r.status.rank < Status.rank .dead := by
          cases hst : r.status <;> rw [hst] at hactive <;> first | decide | exact nomatch hactive
        exact ⟨⟨.inr ⟨hactive, hrank⟩, .refl _⟩, trivial, fun hp => nomatch hp⟩
      · rw [if_neg hn]
        exact ⟨⟨.refl _, .refl _⟩, trivial, h.uncommitted⟩
    | blocked | error => exact h.same trivial
  | returned => cases a <;> exact h.same trivial

theorem exec_returned (a : Answer) : r.exec all .returned a = (.returned, r) := by cases a <;> rfl

theorem single_step (r : Request O) (e : SagaEvent) (h : Single r) (he : r.Alone e) :
    Single (r.step all e) ∧ r.Forward (r.step all e) := by
  cases e with
  | claim =>
    have hidle : ∀ pc ∈ r.workers, pc.running = false := by simpa [Request.Alone] using he
    simp only [Request.step]
    split
    · rename_i pc hpc
      refine ⟨⟨AtMostOne.concat hidle, forall_start h.fits ?_, h.uncommitted⟩, .refl _, .refl _⟩
      cases hst : r.status <;> rw [hst] at hpc <;>
        simp only [firstStatement, Option.some.injEq, reduceCtorEq] at hpc <;> subst hpc <;> rfl
    · exact ⟨h, .refl _, .refl _⟩
  | work k a =>
    simp only [Request.step]
    split
    · rename_i pc hk
      cases hrun : pc.running with
      | false =>
        obtain rfl := Pc.of_not_running hrun
        rw [exec_returned]
        simp only [set_same hk]
        exact ⟨h, .refl _, .refl _⟩
      | true =>
        obtain ⟨hfwd, hfit, hunc⟩ := exec_forward all h (h.fits pc (List.mem_of_getElem? hk)) a
        refine ⟨⟨by rw [exec_workers]; exact h.single.set hk hrun, fun q hq => ?_, hunc⟩, hfwd⟩
        rw [exec_workers] at hq
        rcases h.single.of_mem_set hk hrun hq with rfl | hq
        · exact hfit
        · rw [Pc.of_not_running hq]
          trivial
    · exact ⟨h, .refl _, .refl _⟩
  | crash k =>
    exact ⟨⟨h.single.stop rfl, forall_step h.fits trivial, h.uncommitted⟩, .refl _, .refl _⟩

/-- **The saga moves forward** in every run whose claims find no worker at work on the request: each step leaves
the status or advances it, completed, blocked and dead are final, and no recorded checkpoint is lost. Every
`Commit` comes after the `Prepare` of every owner. -/
theorem saga_forward (all : List O) (es : List SagaEvent)
    (h : Along (Request.step all) Request.Alone .created es) :
    Along (Request.step all) (fun r e => r.Forward (r.step all e)) .created es ∧
      CommitsAfterPrepares all (run (Request.step all) .created es).calls := by
  constructor
  · exact Along.of_inv (fun r e hr he => (single_step r e hr he).1) (fun r e hr he => (single_step r e hr he).2)
      single_created h
  · exact (run_inv prepared_step prepared_created es).commits

/-- **An account is closed only after every owner prepared**, however its workers overlap or crash. -/
theorem closes_prepared (all : List O) (es : List SagaEvent) :
    Along (Request.step all) (fun r e => r.finalizes e → AllPrepared all r.calls) .created es := by
  refine Along.of_inv (fun r e h _ => prepared_step r e h) (fun r e h _ hf => ?_) prepared_created
    (.of_forall (C := fun _ _ => True) (fun _ _ _ => trivial) _)
  unfold Request.finalizes at hf
  split at hf
  · split at hf
    · exact h.workers _ (List.mem_of_getElem? ‹_›)
    · cases hf
  · cases hf

/-- The `n` next statements of a worker, none of which fails. -/
def works (k n : ℕ) : List SagaEvent := List.replicate n (.work k .ok)

theorem saga_forward_completed :
    let es := [.claim] ++ works 0 7 ++ [.claim] ++ works 1 6 ++ [.claim] ++ works 2 1
    Along (Request.step [()]) Request.Alone .created es ∧
      Along (Request.step [()]) (fun r e => r.Forward (r.step [()] e)) .created es :=
  ⟨by decide +kernel, (saga_forward [()] _ (by decide +kernel)).1⟩

/-- **A completed request goes back**: two workers claimed it while it was pending, and the slower of them sets it
to preparing after the other, and the workers after it, have completed it. -/
theorem completed_goes_back :
    let r := run (Request.step [()]) .created
      ([.claim, .claim] ++ works 0 6 ++ works 1 4 ++ works 0 1 ++ [.claim] ++ works 2 6 ++ [.claim] ++ works 3 1)
    r.status = .completed ∧ (r.step [()] (.work 1 .ok)).status = .preparing := by
  decide +kernel

/-! ## The user of a saga without blockers -/

section User

variable {O : Type*} {all : List O} {r : Request O} {pc : Pc O}

/-- A request that still holds the account: one at work, or one that an operator replays. -/
def Status.holds (s : Status) : Bool := s.active || s = .dead

/-- **A closing user has a request that holds the account**, and a blocked request leaves its user active or
able to ask again. -/
def World.NotStranded (w : World O) : Prop :=
  (w.user = .closing → ∃ r ∈ w.requests, r.status.holds) ∧
    ∀ r ∈ w.requests, r.status = .blocked → w.user = .active ∨ (w.requestClosure w.user).1 ≠ .userDisabled

/-- No check reports a blocker in the event. -/
def Event.unblocked : Event → Bool
  | .saga _ (.work _ .blocked) => false
  | _ => true

/-- A worker that has found no blocker. -/
def Pc.Unblocked : Pc O → Prop
  | .owners _ _ blocked _ => blocked = false
  | .checkpointRead _ _ blocked _ _ => blocked = false
  | .checkpointWrite _ _ blocked _ _ => blocked = false
  | .block => False
  | .closureAdvanceStatus next => next = .preparing ∨ next = .committing
  | _ => True

structure Request.Unblocked (r : Request O) : Prop where
  status : r.status ≠ .blocked
  workers : ∀ pc ∈ r.workers, pc.Unblocked

theorem unblocked_created : (Request.created (O := O)).Unblocked :=
  ⟨by simp [Request.created], fun _ hpc => absurd hpc List.not_mem_nil⟩

theorem firstStatement_unblocked {s : Status} (h : firstStatement s = some pc) : pc.Unblocked := by
  cases s <;> simp only [firstStatement, Option.some.injEq, reduceCtorEq] at h <;> subst h <;> trivial

/-- A user asks for closure once, and is closing until the request completes. -/
def World.Unblocked (w : World O) : Prop :=
  (w.user = .active ∧ w.requests = []) ∨
    ∃ r, w.requests = [r] ∧ r.Unblocked ∧ w.user ≠ .active ∧ (r.status = .completed → w.user = .closed)

theorem World.Unblocked.notStranded {w : World O} (h : w.Unblocked) : w.NotStranded := by
  rcases h with ⟨hu, hr⟩ | ⟨r, hr, hun, hne, hcomp⟩
  · exact ⟨fun hc => by simp [hu] at hc, fun r hm => by simp [hr] at hm⟩
  · refine ⟨fun hc => ⟨r, by simp [hr], ?_⟩, fun q hq hb => ?_⟩
    · cases hs : r.status with
      | completed => simp [hcomp hs] at hc
      | blocked => exact absurd hs hun.status
      | pending | preparing | committing | dead => rfl
    · rw [hr] at hq
      rw [List.mem_singleton.mp hq] at hb
      exact absurd hb hun.status

variable [DecidableEq O]

/-- A request becomes blocked only by a blocker that was found, and completed only when its user is closed. -/
theorem exec_unblocked (all : List O) (hpc : pc.Unblocked) {a : Answer} (ha : a ≠ .blocked)
    (hr : r.status ≠ .blocked) :
    (r.exec all pc a).1.Unblocked ∧ (r.exec all pc a).2.status ≠ .blocked ∧
      ((r.exec all pc a).2.status = .completed → r.status = .completed ∨
        (pc = .closureStepFinalize ∧ a = .ok)) := by
  have hsame : ∀ q : Pc O, q.Unblocked → q.Unblocked ∧ r.status ≠ .blocked ∧
      (r.status = .completed → r.status = .completed ∨ (pc = .closureStepFinalize ∧ a = .ok)) :=
    fun q hq => ⟨hq, hr, .inl⟩
  cases pc with
  | localClosureBlockers =>
    cases a with
    | ok | error => exact hsame _ trivial
    | blocked => exact absurd rfl ha
  | loadClosureCheckpoints phase =>
    cases a with
    | ok => exact hsame _ rfl
    | blocked | error => exact hsame _ trivial
  | owners phase loaded blocked rest =>
    have hb : blocked = false := hpc
    subst hb
    cases rest with
    | nil =>
      cases phase with
      | prepared => exact hsame _ (.inl rfl)
      | committed => exact hsame _ (.inr rfl)
    | cons owner rest =>
      simp only [Request.exec]
      by_cases hl : loaded owner = some phase
      · rw [if_pos hl]
        exact hsame _ rfl
      · rw [if_neg hl]
        cases a with
        | ok => cases phase <;> exact hsame _ rfl
        | error => cases phase <;> exact hsame _ trivial
        | blocked => exact absurd rfl ha
  | checkpointRead phase loaded blocked owner rest | checkpointWrite phase loaded blocked merged rest =>
    cases a with
    | ok => exact hsame _ hpc
    | blocked | error => exact hsame _ trivial
  | block => exact absurd hpc id
  | closureAdvanceStatus next =>
    cases a with
    | ok => rcases hpc with rfl | rfl <;>
      exact ⟨trivial, by simp [Request.exec], fun hs => by simp [Request.exec] at hs⟩
    | blocked | error => exact hsame _ trivial
  | closureStepFinalize =>
    cases a with
    | ok => exact ⟨trivial, by simp [Request.exec], fun _ => .inr ⟨rfl, rfl⟩⟩
    | blocked | error => exact hsame _ trivial
  | retryRead | returned => cases a <;> exact hsame _ trivial
  | retryWrite n =>
    cases a with
    | ok =>
      simp only [Request.exec]
      by_cases hn : closureMaxRetries ≤ n
      · rw [if_pos hn]
        exact ⟨trivial, by simp, fun hs => by simp at hs⟩
      · rw [if_neg hn]
        exact ⟨trivial, hr, .inl⟩
    | blocked | error => exact hsame _ trivial

theorem step_unblocked (all : List O) (h : r.Unblocked) {e : SagaEvent} (he : ∀ k, e ≠ .work k .blocked) :
    (r.step all e).Unblocked ∧
    ((r.step all e).status = .completed → r.status = .completed ∨ r.finalizes e = true) := by
  cases e with
  | claim =>
    simp only [Request.step]
    split
    · rename_i pc hpc
      exact ⟨⟨h.status, forall_start h.workers (firstStatement_unblocked hpc)⟩, .inl⟩
    · exact ⟨h, .inl⟩
  | work k a =>
    have ha : a ≠ .blocked := fun hb => he k (by rw [hb])
    cases hk : r.workers[k]? with
    | none =>
      simp only [Request.step, hk]
      exact ⟨h, .inl⟩
    | some pc =>
      obtain ⟨hpc, hs, hc⟩ := exec_unblocked all (h.workers pc (List.mem_of_getElem? hk)) ha h.status
      simp only [Request.step, hk]
      refine ⟨⟨hs, ?_⟩, fun hcomp => (hc hcomp).imp_right ?_⟩
      · rw [exec_workers]
        exact forall_step h.workers hpc
      · rintro ⟨rfl, rfl⟩
        simp only [Request.finalizes, hk]
  | crash k =>
    exact ⟨⟨h.status, forall_step h.workers trivial⟩, .inl⟩

theorem world_unblocked (w : World O) (e : Event) (h : w.Unblocked) (he : e.unblocked = true) :
    (w.step all e).Unblocked := by
  cases e with
  | requestClosure read =>
    rcases h with ⟨hu, hr⟩ | ⟨r, hr, hrest⟩
    · simp only [World.step, World.requestClosure, hr, List.any_nil, Bool.false_eq_true, if_false, hu]
      split
      · exact .inl ⟨hu, hr⟩
      · exact .inr ⟨.created, rfl, unblocked_created, by simp, fun hs => nomatch hs⟩
    · simp only [World.step, World.requestClosure]
      split
      · exact .inr ⟨r, hr, hrest⟩
      split
      · exact .inr ⟨r, hr, hrest⟩
      rw [if_pos hrest.2.1]
      exact .inr ⟨r, hr, hrest⟩
  | saga i e =>
    have he' : ∀ k, e ≠ .work k .blocked := by
      rintro k rfl
      exact nomatch he
    simp only [World.step]
    cases hi : w.requests[i]? with
    | none => exact h
    | some r =>
      rcases h with ⟨-, hr⟩ | ⟨r', hr, hun, hne, hcomp⟩
      · simp [hr] at hi
      · have hi0 : i = 0 ∧ r' = r := by
          rw [hr] at hi
          cases i with
          | zero => exact ⟨rfl, Option.some.inj hi⟩
          | succ i => simp at hi
        obtain ⟨rfl, rfl⟩ := hi0
        obtain ⟨hun', hcomp'⟩ := step_unblocked all hun he'
        refine .inr ⟨r'.step all e, by simp [hr], hun', ?_, fun hs => ?_⟩
        · dsimp only
          split
          · simp
          · exact hne
        · rcases hcomp' hs with hs | hf
          · simp [hcomp hs]
          · simp [hf]

/-- **No account is stranded** in a run in which no check of a saga reports a blocker. -/
theorem not_stranded (all : List O) (es : List Event) (h : ∀ e ∈ es, e.unblocked = true) :
    (run (World.step all) .registered es).NotStranded := by
  have hes : Along (World.step all) (fun _ e => e.unblocked = true) World.registered es :=
    Along.of_forall (fun e he _ => h e he) _
  exact (run_inv_of_along (I := World.Unblocked) (fun w e hw he => world_unblocked w e hw he) (.inl ⟨rfl, rfl⟩)
    hes).notStranded

end User

/-- A saga that is at its first retry. -/
theorem not_stranded_retrying :
    (∀ e ∈ [Event.requestClosure .active, .saga 0 .claim, .saga 0 (.work 0 .error)], e.unblocked = true) ∧
      (run (World.step [()]) .registered
        [Event.requestClosure .active, .saga 0 .claim, .saga 0 (.work 0 .error)]).NotStranded :=
  ⟨by decide, not_stranded [()] _ (by decide)⟩

/-- **A blocked closure strands the account**: the local check finds a pending submission, the request is
blocked, and the user, who is still closing, is refused another one. -/
theorem blocked_strands :
    let w := run (World.step [()]) .registered
      [.requestClosure .active, .saga 0 .claim, .saga 0 (.work 0 .blocked), .saga 0 (.work 0 .ok)]
    w.user = .closing ∧ w.requests.map (·.status) = [.blocked] ∧ (w.requestClosure w.user).1 = .userDisabled := by
  decide +kernel

end Seev.Auth.Closure
