import Seev.Lib.Run

/-!
# Machines that answer

A machine `step : σ → ε → σ × ο` takes a call to its next state and its answer.

* `answers_eq`: two machines related by a simulation give the same answers, on
  the calls that meet a condition in the state they are made in.
-/

namespace Seev.Lib

variable {σ τ ε ο : Type*}

/-- The answers to the calls `es`. -/
def answers (step : σ → ε → σ × ο) (s : σ) : List ε → List ο
  | [] => []
  | e :: es => (step s e).2 :: answers step (step s e).1 es

/-- The next state alone. -/
def next (step : σ → ε → σ × ο) (s : σ) (e : ε) : σ := (step s e).1

variable {step : σ → ε → σ × ο} {step' : τ → ε → τ × ο}

@[simp] theorem answers_nil (s : σ) : answers step s [] = [] := rfl

@[simp] theorem answers_cons (s : σ) (e : ε) (es : List ε) :
    answers step s (e :: es) = (step s e).2 :: answers step (next step s e) es := rfl

theorem answers_append (s : σ) (es fs : List ε) :
    answers step s (es ++ fs) = answers step s es ++ answers step (run (next step) s es) fs := by
  induction es generalizing s with
  | nil => rfl
  | cons e es ih => rw [List.cons_append, answers_cons, ih]; rfl

/-- **Simulation rule.** -/
theorem answers_eq {R : σ → τ → Prop} {C : σ → ε → Prop}
    (hstep : ∀ s t e, R s t → C s e → R (next step s e) (next step' t e) ∧ (step s e).2 = (step' t e).2)
    {s : σ} {t : τ} (h : R s t) {es : List ε} (hes : Along (next step) C s es) :
    answers step s es = answers step' t es := by
  induction es generalizing s t with
  | nil => rfl
  | cons e es ih =>
    obtain ⟨hR, hout⟩ := hstep s t e h hes.1
    rw [answers_cons, answers_cons, hout, ih hR hes.2]

end Seev.Lib
