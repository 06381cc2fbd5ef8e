import Mathlib.Data.List.MinMax
import Mathlib.Data.Prod.Lex

/-!
# Journals with a running balance

A journal grows by one transaction at a time, each stamped no earlier than those before
it, and every entry carries the total after its whole transaction. Times and totals are
arbitrary.

* `Journal`: the lists that grow this way.
* `Journal.before`: the entries stamped before a time are a journal.
* `Journal.closing`: the total can be read off the entry that is latest by time and id,
  unless an entry of another transaction has the same time and a later id.
-/

namespace Seev.Lib

variable {ε τ T R ι : Type*} [LinearOrder T] [LinearOrder ι]

section Journal

variable (tx : ε → τ) (after : ε → R) (total : List ε → R) (time : τ → T)

/-- A list of entries that grew by one transaction at a time. -/
inductive Journal : List ε → Prop
  | nil : Journal []
  | post {l block : List ε} (x : τ) (journal : Journal l) (ne : block ≠ [])
      (ofTx : ∀ e ∈ block, tx e = x) (fresh : ∀ e ∈ l, tx e ≠ x)
      (later : ∀ e ∈ l, time (tx e) ≤ time x) (running : ∀ e ∈ block, after e = total (l ++ block)) :
      Journal (l ++ block)

end Journal

variable {tx : ε → τ} {after : ε → R} {total : List ε → R} {time time' : τ → T} {l : List ε} {z : ε}

namespace Journal

/-- Only the times of the transactions in it matter. -/
theorem congr (h : Journal tx after total time l) (heq : ∀ e ∈ l, time' (tx e) = time (tx e)) :
    Journal tx after total time' l := by
  induction h with
  | nil => exact .nil
  | @post l block x _ hne htx hfresh hlater hrun ih =>
    have hl : ∀ e ∈ l, time' (tx e) = time (tx e) := fun e he => heq e (List.mem_append_left _ he)
    obtain ⟨b, hb⟩ := List.exists_mem_of_ne_nil block hne
    have hx : time' x = time x := htx b hb ▸ heq b (List.mem_append_right _ hb)
    refine .post x (ih hl) hne htx hfresh (fun e he => ?_) hrun
    rw [hl e he, hx]
    exact hlater e he

/-- **The entries stamped before a time are a journal**: no transaction is cut in two, and
none is left out before one that stays. -/
theorem before (h : Journal tx after total time l) (t : T) :
    Journal tx after total time (l.filter fun e => time (tx e) < t) := by
  induction h with
  | nil => exact .nil
  | @post l block x hl hne htx hfresh hlater hrun ih =>
    rw [List.filter_append]
    by_cases hx : time x < t
    · -- the block stays, and with it everything before
      have hall : l.filter (fun e => time (tx e) < t) = l :=
        List.filter_eq_self.2 fun e he => decide_eq_true ((hlater e he).trans_lt hx)
      have hblock : block.filter (fun e => time (tx e) < t) = block :=
        List.filter_eq_self.2 fun e he => decide_eq_true (by rw [htx e he]; exact hx)
      rw [hall, hblock]
      exact .post x hl hne htx hfresh hlater hrun
    · have hblock : block.filter (fun e => time (tx e) < t) = [] := by
        rw [List.filter_eq_nil_iff]
        intro e he
        simpa [htx e he] using hx
      rw [hblock, List.append_nil]
      exact ih

theorem mem_last {block : List ε} (hne : block ≠ []) (hz : (l ++ block).getLast? = some z) : z ∈ block := by
  rw [List.getLast?_append_of_ne_nil l hne] at hz
  exact List.mem_of_getLast? hz

/-- The entries of the last transaction carry the total. -/
theorem after_eq (h : Journal tx after total time l) (hz : l.getLast? = some z) {e : ε} (he : e ∈ l)
    (heq : tx e = tx z) : after e = total l := by
  cases h with
  | nil => cases he
  | post x _ hne htx hfresh _ hrun =>
    have hzx := htx z (mem_last hne hz)
    rcases List.mem_append.1 he with he | he
    · exact absurd (heq.trans hzx) (hfresh e he)
    · exact hrun e he

/-- The last transaction is the latest. -/
theorem time_le (h : Journal tx after total time l) (hz : l.getLast? = some z) {e : ε} (he : e ∈ l) :
    time (tx e) ≤ time (tx z) := by
  cases h with
  | nil => cases he
  | post x _ hne htx _ hlater _ =>
    rw [htx z (mem_last hne hz)]
    rcases List.mem_append.1 he with he | he
    · exact hlater e he
    · rw [htx e he]

/-- **The total is what the latest entry carries**, by time and then by id, when no entry
of another transaction with the last one's time has a later id. -/
theorem closing (h : Journal tx after total time l) (id : ε → ι)
    (huntied : ∀ z ∈ l.getLast?, ∀ e ∈ l, time (tx e) = time (tx z) → tx e = tx z ∨ id e < id z) :
    ((l.argmax fun e => toLex (time (tx e), id e)).map after).getD (total []) = total l := by
  cases hm : l.argmax fun e => toLex (time (tx e), id e) with
  | none =>
    rw [List.argmax_eq_none.1 hm]
    rfl
  | some m =>
    have hmem : m ∈ l := List.argmax_mem hm
    have hne : l ≠ [] := List.ne_nil_of_mem hmem
    obtain ⟨z, hz⟩ : ∃ z, l.getLast? = some z := ⟨_, List.getLast?_eq_getLast_of_ne_nil hne⟩
    have hzmem : z ∈ l := List.mem_of_getLast? hz
    -- the maximum is at the last one's time, so the tie decides
    have hmax := List.le_of_mem_argmax hzmem hm
    have hle := h.time_le hz hmem
    have htx : tx m = tx z := by
      rcases Prod.Lex.toLex_le_toLex.1 hmax with hlt | ⟨heq, hid⟩
      · exact absurd hlt (not_lt.2 hle)
      · exact (huntied z hz m hmem heq.symm).resolve_right (not_lt.2 hid)
    exact h.after_eq hz hmem htx

end Journal

end Seev.Lib
