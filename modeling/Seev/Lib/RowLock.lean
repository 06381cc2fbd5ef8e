import Mathlib.Data.List.Basic

/-!
# Row locks

A lock table maps a key to its holder. A holder acquires a list of keys at once,
when each of them is free or already its own, and gives all of them back when its
transaction ends. A key has one holder at a time by the type of the table; what is
left to say is who holds what after each operation.
-/

namespace Seev.Lib

variable {κ σ : Type} [DecidableEq κ] [DecidableEq σ]

/-- The holder of each key. -/
abbrev Locks (κ σ : Type) := κ → Option σ

namespace Locks

/-- `s` holds `k` or nobody does. -/
def available (L : Locks κ σ) (s : σ) (k : κ) : Bool :=
  match L k with
  | none => true
  | some s' => decide (s' = s)

/-- `s` takes every key of `ks`. -/
def acquire (L : Locks κ σ) (s : σ) (ks : List κ) : Locks κ σ :=
  fun k => if k ∈ ks then some s else L k

/-- `s` gives back every key it holds. -/
def release (L : Locks κ σ) (s : σ) : Locks κ σ :=
  fun k => if L k = some s then none else L k

variable {L : Locks κ σ} {s s' : σ} {ks : List κ} {k : κ}

omit [DecidableEq κ] in
theorem available_iff : L.available s k = true ↔ ∀ s', L k = some s' → s' = s := by
  unfold available
  cases h : L k with
  | none => simp
  | some s' => simp

omit [DecidableEq σ] in
theorem acquire_of_mem (h : k ∈ ks) : L.acquire s ks k = some s := by
  simp [acquire, h]

omit [DecidableEq σ] in
/-- What `s` held it still holds. -/
theorem acquire_own (h : L k = some s) : L.acquire s ks k = some s := by
  by_cases hk : k ∈ ks <;> simp [acquire, hk, h]

/-- Taking available keys takes nothing from anybody else. -/
theorem acquire_other (ha : ∀ k ∈ ks, L.available s k = true) (hs : s' ≠ s) (h : L k = some s') :
    L.acquire s ks k = some s' := by
  have hk : k ∉ ks := fun hk => hs (available_iff.1 (ha k hk) s' h)
  simp [acquire, hk, h]

omit [DecidableEq κ] in
theorem release_other (hs : s' ≠ s) (h : L k = some s') : L.release s k = some s' := by
  simp [release, h, hs]

omit [DecidableEq κ] [DecidableEq σ] in
/-- Two holders of one key are the same. -/
theorem holder_unique (h : L k = some s) (h' : L k = some s') : s = s' := Option.some.inj (h.symm.trans h')

end Locks

end Seev.Lib
