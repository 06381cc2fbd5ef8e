import Mathlib.Algebra.BigOperators.Group.List.Basic
import Mathlib.Data.List.Nodup
import Mathlib.Tactic.Abel

/-!
# Tables as lists of rows with an id

An update of one row is a map over the list.

* `map_id_map`, `eq_of_id`, `find?_id`: the ids stay, an id is of one row, and a lookup
  finds it.
* `nodup_concat_id`, `notMem_ids`: a row with a new id.
* `countP_eq_one`: a row that is the only one of its kind, as a count.
-/

namespace Seev.Lib

variable {ρ κ R : Type*} {l : List ρ} {r : ρ}

variable {k : ρ → κ}

theorem map_id_map {g : ρ → ρ} (h : ∀ r ∈ l, k (g r) = k r) : (l.map g).map k = l.map k := by
  rw [List.map_map]
  exact List.map_congr_left h

/-- Two rows with one id are one row. -/
theorem eq_of_id {r' : ρ} (hids : (l.map k).Nodup) (hr : r ∈ l) (hr' : r' ∈ l) (h : k r = k r') : r = r' :=
  List.inj_on_of_nodup_map hids hr hr' h

/-- A lookup by id finds the row. -/
theorem find?_id [DecidableEq κ] (hids : (l.map k).Nodup) (hr : r ∈ l) : l.find? (k · = k r) = some r := by
  obtain ⟨r', hr'⟩ := Option.isSome_iff_exists.1 (List.find?_isSome.2 ⟨r, hr, by simp⟩ :
    (l.find? (k · = k r)).isSome)
  have hk : k r' = k r := by simpa using List.find?_some hr'
  rw [hr', eq_of_id hids (List.mem_of_find?_eq_some hr') hr hk]

theorem nodup_concat_id (hids : (l.map k).Nodup) (hnew : k r ∉ l.map k) : ((l ++ [r]).map k).Nodup := by
  rw [List.map_append, List.nodup_append_comm]
  exact List.nodup_cons.2 ⟨hnew, hids⟩

theorem notMem_ids [DecidableEq κ] {x : κ} (h : ¬l.any (k · = x) = true) : x ∉ l.map k := by
  intro hmem
  obtain ⟨q, hq, rfl⟩ := List.mem_map.1 hmem
  exact h (List.any_eq_true.2 ⟨q, hq, by simp⟩)

/-- Exactly one row is of a kind that only rows with one id are of. -/
theorem countP_eq_one {p : ρ → Bool} (hids : (l.map k).Nodup) (hr : r ∈ l) (hp : p r = true)
    (hunique : ∀ q ∈ l, p q = true → k q = k r) : l.countP p = 1 := by
  have hperm : (l.filter p).Perm [r] := by
    rw [List.perm_ext_iff_of_nodup ((List.Nodup.of_map k hids).filter p) (List.nodup_singleton r)]
    intro q
    rw [List.mem_filter, List.mem_singleton]
    constructor
    · rintro ⟨hq, hpq⟩
      exact eq_of_id hids hq hr (hunique q hq hpq)
    · rintro rfl
      exact ⟨hr, hp⟩
  rw [List.countP_eq_length_filter, hperm.length_eq, List.length_singleton]

end Seev.Lib
