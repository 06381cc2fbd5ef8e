import Mathlib.Data.List.Basic
import Mathlib.Logic.Relation

/-!
# Runs of a transition function

A system is a total function `step : σ → ε → σ`: an event that is not enabled
leaves the state as it is. A run is a fold over a list of events.

* `run_inv`: an invariant of one step is an invariant of every run.
* `run_inv_of_along`: the same for the runs whose every step meets a condition
  on the state before it and the event.
* `Along.of_inv`: what an invariant says of every single step of a run.
* `run_refines`: a step-by-step refinement into another system carries over to
  whole runs.
-/

namespace Seev.Lib

variable {σ τ ε : Type*}

/-- The state after the events `es`. -/
def run (step : σ → ε → σ) (s : σ) (es : List ε) : σ := es.foldl step s

variable {step : σ → ε → σ}

@[simp] theorem run_nil (s : σ) : run step s [] = s := rfl

@[simp] theorem run_cons (s : σ) (e : ε) (es : List ε) :
    run step s (e :: es) = run step (step s e) es := rfl

theorem run_append (s : σ) (es fs : List ε) :
    run step s (es ++ fs) = run step (run step s es) fs := List.foldl_append

/-- Every event of the run meets `C` in the state it is taken in. -/
def Along (step : σ → ε → σ) (C : σ → ε → Prop) (s : σ) : List ε → Prop
  | [] => True
  | e :: es => C s e ∧ Along step C (step s e) es

variable {C D : σ → ε → Prop} {I : σ → Prop} {es fs : List ε} {s : σ}

theorem Along.and :
    ∀ {es : List ε} {s : σ}, Along step C s es → Along step D s es → Along step (fun s e => C s e ∧ D s e) s es
  | [], _, _, _ => trivial
  | _ :: _, _, ⟨h1, h2⟩, ⟨h1', h2'⟩ => ⟨⟨h1, h1'⟩, h2.and h2'⟩

/-- A condition every event meets in every state. -/
theorem Along.of_forall (h : ∀ e ∈ es, ∀ s, C s e) (s : σ) : Along step C s es := by
  induction es generalizing s with
  | nil => trivial
  | cons e es ih => exact ⟨h e List.mem_cons_self s, ih (fun e' he' => h e' (List.mem_cons_of_mem _ he')) _⟩

theorem Along.append (h : Along step C s es)
    (h' : Along step C (run step s es) fs) : Along step C s (es ++ fs) := by
  induction es generalizing s with
  | nil => exact h'
  | cons e es ih => exact ⟨h.1, ih h.2 h'⟩

theorem Along.split (h : Along step C s (es ++ fs)) :
    Along step C s es ∧ Along step C (run step s es) fs := by
  induction es generalizing s with
  | nil => exact ⟨trivial, h⟩
  | cons e es ih => exact ⟨⟨h.1, (ih h.2).1⟩, (ih h.2).2⟩

instance Along.decidable {C : σ → ε → Prop} [∀ s e, Decidable (C s e)] :
    ∀ (s : σ) (es : List ε), Decidable (Along step C s es)
  | _, [] => .isTrue trivial
  | s, e :: es =>
    have := Along.decidable (C := C) (step s e) es
    inferInstanceAs (Decidable (C s e ∧ Along step C (step s e) es))

/-- **Invariant rule** for the runs whose every step meets `C`. -/
theorem run_inv_of_along (hstep : ∀ s e, I s → C s e → I (step s e)) (h : I s)
    (hes : Along step C s es) : I (run step s es) := by
  induction es generalizing s with
  | nil => exact h
  | cons e es ih => exact ih (hstep s e h hes.1) hes.2

/-- A property `P` of every step of a run, from an invariant and the condition `C`. -/
theorem Along.of_inv {P : σ → ε → Prop} (hstep : ∀ s e, I s → C s e → I (step s e))
    (hP : ∀ s e, I s → C s e → P s e) (h : I s) (hes : Along step C s es) :
    Along step P s es := by
  induction es generalizing s with
  | nil => trivial
  | cons e es ih => exact ⟨hP s e h hes.1, ih (hstep s e h hes.1) hes.2⟩

/-- **Invariant rule.** -/
theorem run_inv (hstep : ∀ s e, I s → I (step s e)) (h : I s) (es : List ε) : I (run step s es) := by
  induction es generalizing s with
  | nil => exact h
  | cons e es ih => exact ih (hstep s e h)

/-- **Refinement rule.** If every step from a state in `R` stays in `R` with some
number of steps of the abstract relation `A`, so does every run. -/
theorem run_refines {R : σ → τ → Prop} {A : τ → τ → Prop}
    (hstep : ∀ s e a, R s a → ∃ a', Relation.ReflTransGen A a a' ∧ R (step s e) a') {a : τ}
    (h : R s a) (es : List ε) : ∃ a', Relation.ReflTransGen A a a' ∧ R (run step s es) a' := by
  induction es generalizing s a with
  | nil => exact ⟨a, .refl, h⟩
  | cons e es ih =>
    obtain ⟨a₁, h1, hR⟩ := hstep s e a h
    obtain ⟨a₂, h2, hR'⟩ := ih hR
    exact ⟨a₂, h1.trans h2, hR'⟩

end Seev.Lib
