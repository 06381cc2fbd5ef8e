import Seev.Lib.Run
import Seev.Ledger.BalanceV2.Control

/-!
# The flags of the control record

The flags say what the writers and the readers do, the state says what the operators see. Each
transition sets the flags of the state it enters, and none of them turns source writes on again but
a rollback and a failure.

* `Migration.FlagsAgree`: the flags are those of the state, or of the state a pause interrupted.
* `Migration.moves`: where a transition leads, pauses apart.
* `flags_agree`: they agree after any requests, as long as nobody goes back to the target as the
  primary table while source writes are off.
-/

namespace Seev.Ledger.BalanceV2

open Lib

/-- The states from the shadow reads on. -/
def State.onward : State → Bool
  | .shadowRead | .canaryRead | .rampingRead | .targetPrimary | .sourceWriteDisabled | .observation
  | .completed => true
  | _ => false

/-- The states in which source writes may be off. -/
def State.mayStopSource : State → Bool
  | .sourceWriteDisabled | .observation | .completed => true
  | _ => false

namespace Migration

/-- **The flags agree with the state**: source writes are off only at the end of the migration, and
shadow reads and reads of the target come with strict writes to it. -/
structure FlagsAgree (m : Migration) : Prop where
  source : m.sourceWriteEnabled = false → m.effective.mayStopSource = true
  strict : m.effective.onward = true → m.targetWriteEnabled = true ∧ m.strictDualWrite = true
  reads : 0 < m.readPercentageBasisPoints → m.targetWriteEnabled = true ∧ m.strictDualWrite = true

/-- A request of an operator, refused or carried out. -/
def request (m : Migration) (x : Request × Change) : Migration :=
  match m.apply x.1 x.2 with
  | .ok m' => m'
  | .error _ => m

/-- The target becomes the primary table only while source writes are on. -/
def SourceKept (m : Migration) (x : Request × Change) : Prop :=
  x.2 = .transition .targetPrimary → m.sourceWriteEnabled = true

instance (m : Migration) (x : Request × Change) : Decidable (SourceKept m x) :=
  inferInstanceAs (Decidable (x.2 = .transition .targetPrimary → m.sourceWriteEnabled = true))

variable {m m' : Migration} {r : Request} {target : State}

/-! ## What a transition sets -/

theorem effective_moveTo (m : Migration) (target : State) :
    (m.moveTo target).effective = if target = .paused then m.state else target := by
  unfold effective moveTo
  by_cases h : target = .paused
  · simp [h]
  · simp [h]

theorem setFlags_source (m : Migration) (target : State) :
    (m.setFlags target).sourceWriteEnabled = false → m.sourceWriteEnabled = false ∨
      target = .sourceWriteDisabled := by
  intro h
  cases target <;> first | exact .inl h | exact .inr rfl | cases h

theorem setFlags_strict (m : Migration) (h : target.onward = true) :
    (m.setFlags target).targetWriteEnabled = true ∧ (m.setFlags target).strictDualWrite = true := by
  cases target <;> first | exact ⟨rfl, rfl⟩ | cases h

theorem setFlags_reads (m : Migration) (target : State) (h : 0 < (m.setFlags target).readPercentageBasisPoints) :
    0 < m.readPercentageBasisPoints ∧ target ≠ .rollingBack ∧ target ≠ .failed ∨ target.onward = true := by
  cases target <;> first | exact .inr rfl | exact .inl ⟨h, by decide, by decide⟩ | exact absurd h (lt_irrefl 0)

/-- A state in which the target may be read comes after the shadow reads. -/
theorem onward_of_targetReadsEnabled (h : m.targetReadsEnabled = true) : m.effective.onward = true := by
  unfold targetReadsEnabled at h
  unfold effective
  cases hs : m.state <;> rw [hs] at h <;> first | rfl | cases h

/-! ## Where a transition leads -/

/-- What the flags need to agree after the next request too: a pause remembers the state it interrupted, and
the target is read from the shadow reads on. -/
structure Consistent (m : Migration) : Prop extends FlagsAgree m where
  paused : m.state = .paused → ∃ p, m.previousState = some p ∧ p ≠ .paused
  staged : 0 < m.readPercentageBasisPoints → m.effective.onward = true

/-- A transition pauses, resumes, ends the migration, or takes an edge of the lifecycle. -/
theorem moves (h : m.transition r target = .ok m') :
    m' = m.moveTo target ∧
      (target = .rollingBack ∨ target = .failed ∨ target = .paused ∧ m.state ≠ .paused ∨
        target ≠ .paused ∧ target = m.effective ∨
        target ≠ .paused ∧ m.state ≠ .paused ∧ target ∈ m.state.allowedTransitions) := by
  obtain ⟨rfl, hvalid, hpaused⟩ := transition_ok_iff h
  refine ⟨rfl, ?_⟩
  have hne : m.state ≠ target := by
    rintro rfl
    simp [State.validateTransition] at hvalid
  by_cases hp : m.state = .paused
  · rcases hpaused hp with h | h | h
    · exact .inl h
    · exact .inr (.inl h)
    · refine .inr (.inr (.inr (.inl ⟨fun heq => hne (hp.trans heq.symm), ?_⟩)))
      simp [effective, hp, h]
  · by_cases ht : target = .paused
    · exact .inr (.inr (.inl ⟨ht, hp⟩))
    · refine .inr (.inr (.inr (.inr ⟨ht, hp, ?_⟩)))
      unfold State.validateTransition at hvalid
      split at hvalid
      · cases hvalid
      · simpa [hp] using hvalid

/-- The edges keep to the end of the migration once source writes may be off. -/
theorem allowed_mayStopSource {p : State} (hp : p.mayStopSource = true) (h : target ∈ p.allowedTransitions) :
    target.mayStopSource = true ∨ target = .targetPrimary ∨ target = .paused ∨ target = .rollingBack ∨
      target = .failed := by
  have hall : ∀ t ∈ p.allowedTransitions, t.mayStopSource = true ∨ t = .targetPrimary ∨ t = .paused ∨
      t = .rollingBack ∨ t = .failed := by
    cases p <;> cases hp <;> decide
  exact hall target h

/-- And from the shadow reads on they stay there. -/
theorem allowed_onward {p : State} (hp : p.onward = true) (h : target ∈ p.allowedTransitions) :
    target.onward = true ∨ target = .paused ∨ target = .rollingBack ∨ target = .failed := by
  have hall : ∀ t ∈ p.allowedTransitions, t.onward = true ∨ t = .paused ∨ t = .rollingBack ∨ t = .failed := by
    cases p <;> cases hp <;> decide
  exact hall target h

/-! ## Requests -/

theorem reference_consistent : reference.Consistent where
  source h := nomatch h
  strict h := nomatch h
  reads h := nomatch h
  paused h := nomatch h
  staged h := nomatch h

/-- A pause sets no flag. -/
theorem Consistent.pause (h : m.Consistent) (hp : m.state ≠ .paused) : (m.moveTo .paused).Consistent := by
  have heff : (m.moveTo .paused).effective = m.effective := by
    rw [effective_moveTo, if_pos rfl, effective, if_neg hp]
  exact
    { source := by rw [heff]; exact h.source
      strict := by rw [heff]; exact h.strict
      reads := h.reads
      paused := fun _ => ⟨m.state, rfl, hp⟩
      staged := by rw [heff]; exact h.staged }

/-- The end of a migration sets them all. -/
theorem Consistent.abort (ht : target = .rollingBack ∨ target = .failed) : (m.moveTo target).Consistent := by
  rcases ht with rfl | rfl <;> exact
    { source := fun h => nomatch h
      strict := fun h => nomatch h
      reads := fun h => nomatch h
      paused := fun h => nomatch h
      staged := fun h => nomatch h }

/-- Any other state that is entered agrees with its flags, as soon as source writes that are off and reads of the
target lead to a state that allows them. -/
theorem Consistent.enter (ht : target ≠ .paused)
    (hsource : m.sourceWriteEnabled = false → target.mayStopSource = true)
    (hreads : 0 < m.readPercentageBasisPoints → target.onward = true ∨ target = .rollingBack ∨ target = .failed) :
    (m.moveTo target).Consistent := by
  have heff : (m.moveTo target).effective = target := by rw [effective_moveTo, if_neg ht]
  have hstaged : 0 < (m.moveTo target).readPercentageBasisPoints → target.onward = true := by
    intro h
    rcases setFlags_reads m target h with ⟨hpos, hroll, hfail⟩ | honward
    · rcases hreads hpos with honward | hr | hf
      · exact honward
      · exact absurd hr hroll
      · exact absurd hf hfail
    · exact honward
  exact
    { source := by
        rw [heff]
        intro h
        rcases setFlags_source m target h with hoff | rfl
        · exact hsource hoff
        · rfl
      strict := by
        rw [heff]
        exact setFlags_strict m
      reads := fun h => setFlags_strict m (hstaged h)
      paused := fun h => absurd h ht
      staged := by
        rw [heff]
        exact hstaged }

theorem Consistent.transition (h : m.Consistent) (hkept : target = .targetPrimary → m.sourceWriteEnabled = true)
    (hm' : m.transition r target = .ok m') : m'.Consistent := by
  obtain ⟨rfl, hmove⟩ := moves hm'
  rcases hmove with hroll | hfail | ⟨rfl, hp⟩ | ⟨hne, heff⟩ | ⟨hne, hp, hallowed⟩
  · exact .abort (.inl hroll)
  · exact .abort (.inr hfail)
  · exact h.pause hp
  · -- back to the state the pause interrupted
    subst heff
    exact .enter hne h.source fun hpos => .inl (h.staged hpos)
  · have heff : m.effective = m.state := by rw [effective, if_neg hp]
    by_cases hend : target = .rollingBack ∨ target = .failed
    · exact .abort hend
    rw [not_or] at hend
    refine .enter hne (fun hoff => ?_) fun hpos => ?_
    · have hstop := h.source hoff
      rw [heff] at hstop
      rcases allowed_mayStopSource hstop hallowed with hs | ht | hs | hs | hs
      · exact hs
      · rw [hkept ht] at hoff
        cases hoff
      · exact absurd hs hne
      · exact absurd hs hend.1
      · exact absurd hs hend.2
    · have honward := h.staged hpos
      rw [heff] at honward
      rcases allowed_onward honward hallowed with hs | hs | hs | hs
      · exact .inl hs
      · exact absurd hs hne
      · exact .inr (.inl hs)
      · exact .inr (.inr hs)

theorem Consistent.setReadPercentage {n : ℕ} (h : m.Consistent) (hm' : m.setReadPercentage r n = .ok m') :
    m'.Consistent := by
  unfold Migration.setReadPercentage at hm'
  obtain ⟨-, hm'⟩ := guard_eq_ok.1 hm'
  obtain ⟨-, -, hm'⟩ := bind_eq_ok.1 hm'
  obtain ⟨-, -, hm'⟩ := bind_eq_ok.1 hm'
  obtain ⟨henabled, hm'⟩ := guard_eq_ok.1 hm'
  obtain ⟨-, hm'⟩ := guard_eq_ok.1 hm'
  obtain ⟨-, hm'⟩ := guard_eq_ok.1 hm'
  cases hm'
  have honward : 0 < n → m.effective.onward = true := by
    intro hpos
    exact onward_of_targetReadsEnabled (by simpa [hpos] using henabled)
  exact
    { source := h.source
      strict := h.strict
      reads := fun hpos => h.strict (honward hpos)
      paused := h.paused
      staged := honward }

theorem Consistent.setDualWrite {strict : Bool} (h : m.Consistent) (hm' : m.setDualWrite r strict = .ok m') :
    m'.Consistent := by
  unfold Migration.setDualWrite at hm'
  obtain ⟨-, -, hm'⟩ := bind_eq_ok.1 hm'
  obtain ⟨-, -, hm'⟩ := bind_eq_ok.1 hm'
  obtain ⟨-, hm'⟩ := guard_eq_ok.1 hm'
  obtain ⟨hshadow, hm'⟩ := guard_eq_ok.1 hm'
  cases hm'
  -- a record from the shadow reads on is made strict only
  have hstrict : m.effective.onward = true → strict = true := by
    intro honward
    by_contra hne
    have hstate : m.state = .dualWriteShadow := by
      simp only [Bool.not_eq_true] at hne
      simpa [hne] using hshadow
    simp [effective, hstate, State.onward] at honward
  exact
    { source := h.source
      strict := fun honward => ⟨rfl, hstrict honward⟩
      reads := fun hpos => ⟨rfl, hstrict (h.staged hpos)⟩
      paused := h.paused
      staged := h.staged }

theorem Consistent.request (h : m.Consistent) {x : Request × Change} (hkept : SourceKept m x) :
    (m.request x).Consistent := by
  unfold Migration.request
  split
  · rename_i m' hm'
    obtain ⟨r, c⟩ := x
    cases c with
    | transition target => exact h.transition (fun ht => hkept (by rw [ht])) hm'
    | setReadPercentage n => exact h.setReadPercentage hm'
    | setDualWrite strict => exact h.setDualWrite hm'
  · exact h

end Migration

/-- **The flags agree with the state after every sequence of requests** that never makes the target primary while
source writes are off. -/
theorem flags_agree (xs : List (Request × Change))
    (hxs : Along Migration.request Migration.SourceKept .reference xs) :
    (run Migration.request .reference xs).FlagsAgree :=
  (run_inv_of_along (I := Migration.Consistent) (fun _ _ h hkept => h.request hkept)
    Migration.reference_consistent hxs).toFlagsAgree

namespace Sample

/-- A request with an approver, a passed gate and a complete backfill. -/
def approved (c : Change) : Request × Change := (⟨"ops", "checker", "rollout", 0, true, true⟩, c)

/-- The way to the end, until source writes are off. -/
def toSourceOff : List (Request × Change) :=
  [.transition .validated, .transition .targetReady, .transition .backfilling, .transition .dualWriteShadow,
    .transition .shadowRead, .transition .canaryRead, .setReadPercentage 10000, .transition .rampingRead,
    .transition .targetPrimary, .transition .sourceWriteDisabled].map approved

end Sample

theorem flags_agree_sourceOff :
    (run Migration.request .reference Sample.toSourceOff).state = .sourceWriteDisabled ∧
      (run Migration.request .reference Sample.toSourceOff).FlagsAgree :=
  ⟨by decide, flags_agree Sample.toSourceOff (by decide)⟩

/-- Back from there, the target is primary and source writes are still off. -/
theorem target_primary_source_off :
    (run Migration.request .reference
      (Sample.toSourceOff ++ [Sample.approved (.transition .targetPrimary)])).state =
        .targetPrimary ∧
      (run Migration.request .reference
        (Sample.toSourceOff ++ [Sample.approved (.transition .targetPrimary)])).sourceWriteEnabled = false ∧
      ¬ (run Migration.request .reference
        (Sample.toSourceOff ++ [Sample.approved (.transition .targetPrimary)])).FlagsAgree := by
  have hoff : (run Migration.request .reference
      (Sample.toSourceOff ++ [Sample.approved (.transition .targetPrimary)])).sourceWriteEnabled =
        false := by decide
  refine ⟨by decide, hoff, fun h => ?_⟩
  exact absurd (h.source hoff) (by decide)

end Seev.Ledger.BalanceV2
