import Mathlib.Order.Basic

/-!
# Searching by jumps

A search goes from state to state until a state has no jump, at most `n` times.

* `search_sound`: what the jumps keep holds where the search ends.
* `search_map`: a search in other coordinates is the same search.
* `search_finds`: a search that approaches a goal, by a measure that every jump lowers, ends there if it
  has as many jumps as the measure says.
-/

namespace Seev.Lib

variable {σ : Type*} {jump : σ → Option σ}

/-- The first state without a jump, if it is reached in fewer than `n` jumps. -/
def search (jump : σ → Option σ) : ℕ → σ → Option σ
  | 0, _ => none
  | n + 1, s =>
    match jump s with
    | none => some s
    | some s' => search jump n s'

theorem search_map {τ : Type*} {jump' : τ → Option τ} {f : τ → σ} (hjump : ∀ s, jump (f s) = (jump' s).map f) :
    ∀ (n : ℕ) (s : τ), search jump n (f s) = (search jump' n s).map f
  | 0, _ => rfl
  | n + 1, s => by
    rw [search, search, hjump]
    cases jump' s with
    | none => rfl
    | some s' => exact search_map hjump n s'

theorem search_sound {I : σ → Prop} (hjump : ∀ s s', I s → jump s = some s' → I s') :
    ∀ {n : ℕ} {s r : σ}, I s → search jump n s = some r → jump r = none ∧ I r
  | 0, _, _, _, h => nomatch h
  | n + 1, s, r, hs, h => by
    rw [search] at h
    split at h
    · next hnone =>
      cases h
      exact ⟨hnone, hs⟩
    · next s' hsome => exact search_sound hjump (hjump s s' hs hsome) h

theorem search_finds {I : σ → Prop} {goal : σ} {M : σ → ℕ} (hgoal : jump goal = none)
    (hjump : ∀ s, I s → s ≠ goal → ∃ s', jump s = some s' ∧ I s' ∧ M s' < M s) :
    ∀ {n : ℕ} {s : σ}, I s → M s < n → search jump n s = some goal
  | 0, _, _, h => nomatch h
  | n + 1, s, hs, h => by
    rw [search]
    by_cases heq : s = goal
    · rw [heq, hgoal]
    · obtain ⟨s', hs', hI, hlt⟩ := hjump s hs heq
      rw [hs']
      exact search_finds hgoal hjump hI (by omega)

end Seev.Lib
