import Mathlib.Data.List.Basic
import Mathlib.Data.List.Count

/-!
# Processes in the slots of a list

Processes that are numbered in the order in which they start are a list that only grows, and a step of the
process `k` overwrites its slot.

* `countP_set`: the overwritten slot takes its place in a count.
* `forall_start`, `forall_step`: what holds of every process is kept by a start and by a step.
* `AtMostOne`: at most one slot holds a process with the property `p`; it is kept by a start while there is none,
  by a step of that one, and by an end.
-/

namespace Seev.Lib

variable {α : Type*} {l : List α} {j k : ℕ} {a b x : α} {p : α → Bool} {P : α → Prop}

/-- The count after a slot is overwritten, with both values of the slot. -/
theorem countP_set (h : l[k]? = some a) :
    (l.set k b).countP p + (if p a then 1 else 0) = l.countP p + if p b then 1 else 0 := by
  obtain ⟨hlt, rfl⟩ := List.getElem?_eq_some_iff.mp h
  rw [List.countP_set hlt]
  by_cases hp : p l[k]
  · have hpos : 0 < l.countP p := List.countP_pos_iff.mpr ⟨l[k], List.getElem_mem hlt, hp⟩
    simp only [hp, if_true]
    omega
  · simp only [hp, Bool.false_eq_true, if_false]
    omega

/-- The slot `j` of a list in which the process `x` started. -/
theorem slot_of_concat (h : (l ++ [x])[j]? = some a) : l[j]? = some a ∨ (j = l.length ∧ a = x) := by
  rcases Nat.lt_or_ge j l.length with hj | hj
  · rw [List.getElem?_append_left hj] at h
    exact .inl h
  · rw [List.getElem?_append_right hj] at h
    obtain ⟨hlt, hget⟩ := List.getElem?_eq_some_iff.mp h
    simp only [List.length_singleton] at hlt
    rw [List.getElem_singleton] at hget
    exact .inr ⟨by omega, hget.symm⟩

/-- The slot `j` of a list whose slot `k` was overwritten. -/
theorem slot_of_set (h : (l.set k b)[j]? = some x) : (j = k ∧ x = b) ∨ (j ≠ k ∧ l[j]? = some x) := by
  by_cases hjk : j = k
  · subst hjk
    rw [List.getElem?_set] at h
    simp only [if_true] at h
    split at h
    · exact .inl ⟨rfl, (Option.some.inj h).symm⟩
    · exact nomatch h
  · rw [List.getElem?_set_ne (Ne.symm hjk)] at h
    exact .inr ⟨hjk, h⟩

theorem forall_start (h : ∀ y ∈ l, P y) (hx : P x) : ∀ y ∈ l ++ [x], P y := by
  intro y hy
  obtain ⟨j, hj⟩ := List.mem_iff_getElem?.mp hy
  rcases slot_of_concat hj with hold | ⟨-, rfl⟩
  · exact h y (List.mem_of_getElem? hold)
  · exact hx

theorem forall_step (h : ∀ y ∈ l, P y) (hb : P b) : ∀ y ∈ l.set k b, P y := by
  intro y hy
  obtain ⟨j, hj⟩ := List.mem_iff_getElem?.mp hy
  rcases slot_of_set hj with ⟨-, rfl⟩ | ⟨-, hold⟩
  · exact hb
  · exact h y (List.mem_of_getElem? hold)

/-- A step that leaves its process as it is. -/
theorem set_same (h : l[k]? = some a) : l.set k a = l := by
  obtain ⟨hlt, rfl⟩ := List.getElem?_eq_some_iff.mp h
  exact List.set_getElem_self hlt

theorem mem_set_self (h : l[k]? = some a) : b ∈ l.set k b :=
  List.mem_set (List.getElem?_eq_some_iff.mp h).1 b

/-- A process other than the one of the slot is still there. -/
theorem mem_set_of_ne (h : l[k]? = some a) (hx : x ∈ l) (hne : x ≠ a) : x ∈ l.set k b := by
  obtain ⟨j, hj⟩ := List.mem_iff_getElem?.mp hx
  have hjk : k ≠ j := by
    rintro rfl
    exact hne (Option.some.inj (hj.symm.trans h))
  exact List.mem_of_getElem? ((List.getElem?_set_ne hjk).trans hj)

/-- No two slots have the property. -/
def AtMostOne (p : α → Bool) (l : List α) : Prop :=
  ∀ ⦃j k : ℕ⦄ ⦃a b : α⦄, l[j]? = some a → l[k]? = some b → p a = true → p b = true → j = k

namespace AtMostOne

theorem nil : AtMostOne p [] := fun _ _ _ _ h => by simp at h

/-- A process starts while no other has the property. -/
theorem concat (h : ∀ y ∈ l, p y = false) : AtMostOne p (l ++ [x]) := by
  have hlast : ∀ {j : ℕ} {a : α}, (l ++ [x])[j]? = some a → p a = true → j = l.length := by
    intro j a hj ha
    rcases slot_of_concat hj with hold | ⟨hlen, -⟩
    · rw [h a (List.mem_of_getElem? hold)] at ha
      exact nomatch ha
    · exact hlen
  intro j k a b hj hk ha hb
  rw [hlast hj ha, hlast hk hb]

variable (h : AtMostOne p l)
include h

/-- A process starts without the property. -/
theorem start (hx : p x = false) : AtMostOne p (l ++ [x]) := by
  have hold : ∀ {j : ℕ} {a : α}, (l ++ [x])[j]? = some a → p a = true → l[j]? = some a := by
    intro j a hj ha
    rcases slot_of_concat hj with hold | ⟨-, rfl⟩
    · exact hold
    · rw [hx] at ha
      exact nomatch ha
  intro i j a b hi hj ha hb
  exact h (hold hi ha) (hold hj hb) ha hb

/-- While the process `k` has the property, the others do not. -/
theorem others (hk : l[k]? = some a) (ha : p a = true) (hj : l[j]? = some x) (hjk : j ≠ k) : p x = false := by
  by_contra hx
  exact hjk (h hj hk (by simpa using hx) ha)

/-- After a step of the process that has the property, only it may have it. -/
theorem of_mem_set (hk : l[k]? = some a) (ha : p a = true) (hx : x ∈ l.set k b) : x = b ∨ p x = false := by
  obtain ⟨j, hj⟩ := List.mem_iff_getElem?.mp hx
  rcases slot_of_set hj with ⟨-, rfl⟩ | ⟨hjk, hold⟩
  · exact .inl rfl
  · exact .inr (h.others hk ha hold hjk)

theorem set (hk : l[k]? = some a) (ha : p a = true) : AtMostOne p (l.set k b) := by
  have hat : ∀ {j : ℕ} {x : α}, (l.set k b)[j]? = some x → p x = true → j = k := by
    intro j x hj hx
    rcases slot_of_set hj with ⟨rfl, -⟩ | ⟨hjk, hold⟩
    · rfl
    · rw [h.others hk ha hold hjk] at hx
      exact nomatch hx
  intro i j x y hi hj hx hy
  rw [hat hi hx, hat hj hy]

/-- A process that loses the property, or never had it. -/
theorem stop (hb : p b = false) : AtMostOne p (l.set k b) := by
  have hold : ∀ {j : ℕ} {x : α}, (l.set k b)[j]? = some x → p x = true → l[j]? = some x := by
    intro j x hj hx
    rcases slot_of_set hj with ⟨-, rfl⟩ | ⟨-, hold⟩
    · rw [hb] at hx
      exact nomatch hx
    · exact hold
  intro i j x y hi hj hx hy
  exact h (hold hi hx) (hold hj hy) hx hy

end AtMostOne

end Seev.Lib
