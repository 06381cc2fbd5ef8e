import Mathlib.Data.List.Nodup
import Mathlib.Data.List.Range
import Seev.Ledger.Disbursement

/-!
# When a disbursement batch finishes

A rejected item stays in the listing of a `Run` that retries failed items, so that such a run is never done; and
without the retry the batch leaves the status processing as soon as nothing is pending, after which `Run` refuses
it. A batch thus finishes with its failed items within reach only if there are none.

* `run_portion`: what one call does to a batch without failed items.
* `finishes_and_retries_iff`: the calls finish, and failed items are retried, exactly when no item is rejected.
-/

namespace Seev.Ledger.Disbursement

variable {b : Batch} {outcome : ℕ → Outcome} {r : Bool} {n m : ℕ}

/-! ## One portion -/

section Attempts

theorem attempts_length (l : List ℕ) : (l.foldl (·.attempt outcome ·) b).items.length = b.items.length := by
  induction l generalizing b with
  | nil => rfl
  | cons i l ih => rw [List.foldl_cons, ih, Batch.attempt, List.length_set]

theorem attempts_attempts (l : List ℕ) : (l.foldl (·.attempt outcome ·) b).attempts = b.attempts ++ l := by
  induction l generalizing b with
  | nil => simp
  | cons i l ih => rw [List.foldl_cons, ih, Batch.attempt, List.append_assoc, List.singleton_append]

theorem attempts_status (l : List ℕ) : (l.foldl (·.attempt outcome ·) b).status = b.status := by
  induction l generalizing b with
  | nil => rfl
  | cons i l ih => rw [List.foldl_cons, ih, Batch.attempt]

/-- Every item of the portion has the mark of its outcome, and the others are as they were. -/
theorem attempts_item (l : List ℕ) {i : ℕ} (hi : i < b.items.length) :
    (l.foldl (·.attempt outcome ·) b).items[i]? = if i ∈ l then some (outcome i).mark else b.items[i]? := by
  induction l generalizing b with
  | nil => simp
  | cons j l ih =>
    have hi' : i < (b.attempt outcome j).items.length := by rwa [Batch.attempt, List.length_set]
    rw [List.foldl_cons, ih hi']
    by_cases hl : i ∈ l
    · rw [if_pos hl, if_pos (List.mem_cons_of_mem _ hl)]
    · rw [if_neg hl, Batch.attempt]
      by_cases hij : j = i
      · subst hij
        rw [if_pos List.mem_cons_self, List.getElem?_set_self hi]
      · have hne : i ∉ j :: l := by
          rw [List.mem_cons]
          rintro (rfl | hm)
          · exact hij rfl
          · exact hl hm
        rw [if_neg hne, List.getElem?_set_ne hij]

end Attempts

theorem mem_itemsToProcess {i : ℕ} :
    i ∈ b.itemsToProcess r ↔ i < b.items.length ∧ b.items[i]?.any (·.toProcess r) = true := by
  simp [Batch.itemsToProcess]

/-- Without its first `m` members, a list has the others left. -/
theorem filter_notMem_take {l : List ℕ} (h : l.Nodup) : l.filter (fun i => i ∉ l.take m) = l.drop m := by
  have hdisj : List.Disjoint (l.take m) (l.drop m) := by
    rw [← List.take_append_drop m l] at h
    exact List.disjoint_of_nodup_append h
  generalize l.take m = t, l.drop m = d, (List.take_append_drop m l).symm = hl at hdisj ⊢
  rw [hl, List.filter_append, List.filter_eq_nil_iff.mpr, List.filter_eq_self.mpr, List.nil_append]
  · intro i hi
    simpa using fun hm => hdisj hm hi
  · intro i hi
    simpa using hi

theorem itemsToProcess_nodup : (b.itemsToProcess r).Nodup := List.nodup_range.filter _

/-- The portion of a call. -/
def Batch.portion (b : Batch) (m : ℕ) (r : Bool) : List ℕ := (b.itemsToProcess r).take m

/-- The batch after the items of a call, before the test for completion. -/
def Batch.processed (b : Batch) (outcome : ℕ → Outcome) (m : ℕ) (r : Bool) : Batch :=
  (b.portion m r).foldl (·.attempt outcome ·) b

/-- A call either refuses, or processes its portion and is done if nothing is left. -/
theorem run_cases (b : Batch) (outcome : ℕ → Outcome) (m : ℕ) (r : Bool) :
    (b.status ≠ .processing ∧ (b.run outcome m r).2 = b ∧ b.reportsDone outcome m r = false) ∨
      (b.status = .processing ∧ (b.processed outcome m r).itemsToProcess r = [] ∧
        (b.run outcome m r).2 = { b.processed outcome m r with status := (b.processed outcome m r).finalStatus } ∧
        b.reportsDone outcome m r = true) ∨
      (b.status = .processing ∧ (b.processed outcome m r).itemsToProcess r ≠ [] ∧
        (b.run outcome m r).2 = b.processed outcome m r ∧ b.reportsDone outcome m r = false) := by
  unfold Batch.reportsDone Batch.run
  by_cases hs : b.status = .processing
  · right
    rw [if_neg (by simpa using hs)]
    simp only [Batch.processed, Batch.portion]
    by_cases hd : ((((b.itemsToProcess r).take m).foldl (·.attempt outcome ·) b).itemsToProcess r) = []
    · left
      rw [if_pos (by rw [hd]; rfl)]
      exact ⟨hs, hd, rfl, rfl⟩
    · right
      rw [if_neg (by simpa using hd)]
      exact ⟨hs, hd, rfl, rfl⟩
  · left
    rw [if_pos hs]
    exact ⟨hs, rfl, rfl⟩

theorem runs_succ (outcome : ℕ → Outcome) (m k : ℕ) (r : Bool) :
    b.runs outcome m (List.replicate (k + 1) r) =
      ((b.runs outcome m (List.replicate k r)).run outcome m r).2 := by
  rw [Batch.runs, List.replicate_succ', List.foldl_append]
  rfl

/-! ## Without a rejection -/

/-- A batch of `n` items none of which has failed. -/
def Batch.Clean (n : ℕ) (b : Batch) : Prop := b.items.length = n ∧ ∀ i : ℕ, b.items[i]? ≠ some .failed

theorem approved_clean : (Batch.approved n).Clean n := by
  refine ⟨List.length_replicate, fun i => ?_⟩
  rw [Batch.approved, List.getElem?_replicate]
  split <;> simp

theorem approved_itemsToProcess : (Batch.approved n).itemsToProcess r = List.range n := by
  rw [Batch.itemsToProcess, Batch.approved, List.length_replicate, List.filter_eq_self]
  intro i hi
  rw [List.getElem?_replicate, if_pos (List.mem_range.mp hi)]
  rfl

section Posted

variable (hout : ∀ i < n, outcome i = .posted)
include hout

theorem attempts_clean (hb : b.Clean n) (l : List ℕ) : (l.foldl (·.attempt outcome ·) b).Clean n := by
  refine ⟨(attempts_length l).trans hb.1, fun i => ?_⟩
  by_cases hi : i < b.items.length
  · rw [attempts_item l hi]
    split
    · rw [hout i (hb.1 ▸ hi)]
      simp [Outcome.mark]
    · exact hb.2 i
  · rw [List.getElem?_eq_none (by rw [attempts_length]; omega)]
    simp

theorem run_clean (hb : b.Clean n) : (b.run outcome m r).2.Clean n := by
  have hp : (b.processed outcome m r).Clean n := attempts_clean hout hb _
  rcases run_cases b outcome m r with ⟨-, h, -⟩ | ⟨-, -, h, -⟩ | ⟨-, -, h, -⟩
  · rwa [h]
  · rw [h]
    exact hp
  · rwa [h]

theorem runs_clean (hb : b.Clean n) (calls : List Bool) : (b.runs outcome m calls).Clean n := by
  induction calls generalizing b with
  | nil => exact hb
  | cons r calls ih => exact ih (run_clean hout hb)

/-- **One portion**: the first items of the listing are posted, and the listing goes on after them. -/
theorem run_portion (hb : b.Clean n) :
    (b.processed outcome m r).itemsToProcess r = (b.itemsToProcess r).drop m ∧
      (b.processed outcome m r).attempts = b.attempts ++ (b.itemsToProcess r).take m := by
  refine ⟨?_, attempts_attempts _⟩
  rw [← filter_notMem_take itemsToProcess_nodup]
  show (b.processed outcome m r).itemsToProcess r = (b.itemsToProcess r).filter fun i => i ∉ b.portion m r
  generalize hl : b.portion m r = l
  rw [Batch.processed, hl, Batch.itemsToProcess, Batch.itemsToProcess, List.filter_filter, attempts_length]
  refine List.filter_congr fun i hi => ?_
  have hlt : i < b.items.length := List.mem_range.mp hi
  rw [attempts_item l hlt]
  by_cases hm : i ∈ l
  · rw [if_pos hm, hout i (hb.1 ▸ hlt)]
    simp [hm, Outcome.mark, ItemStatus.toProcess]
  · rw [if_neg hm]
    simp [hm]

/-- After `k` calls, the first `k` portions are posted; the batch stays open while items remain. -/
theorem runs_portions {k : ℕ} (hk : k = 0 ∨ k * m < n) :
    let b := (Batch.approved n).runs outcome m (List.replicate k r)
    b.status = .processing ∧ b.itemsToProcess r = (List.range n).drop (k * m) ∧
      b.attempts = (List.range n).take (k * m) := by
  induction k with
  | zero =>
    rw [Nat.zero_mul]
    exact ⟨rfl, approved_itemsToProcess, rfl⟩
  | succ k ih =>
    have hlt : (k + 1) * m < n := hk.resolve_left (by omega)
    have hle : k * m ≤ (k + 1) * m := Nat.mul_le_mul_right m (by omega)
    obtain ⟨hs, hp, ha⟩ := ih (.inr (by omega))
    set b := (Batch.approved n).runs outcome m (List.replicate k r) with hb
    have hclean : b.Clean n := runs_clean hout approved_clean _
    obtain ⟨hrest, hatt⟩ := run_portion (m := m) (r := r) hout hclean
    have hadd : k * m + m = (k + 1) * m := by rw [Nat.add_mul, Nat.one_mul]
    rw [hp, List.drop_drop, hadd] at hrest
    rw [hp, ha, ← List.take_add, hadd] at hatt
    have hne : (b.processed outcome m r).itemsToProcess r ≠ [] := by
      rw [hrest]
      simp only [ne_eq, List.drop_eq_nil_iff, List.length_range]
      omega
    rw [runs_succ, ← hb]
    rcases run_cases b outcome m r with ⟨h, -⟩ | ⟨-, h, -⟩ | ⟨-, -, h, -⟩
    · exact absurd hs h
    · exact absurd h hne
    · rw [h]
      exact ⟨(attempts_status _).trans hs, hrest, hatt⟩

/-- Without a rejection the batch is done after its last portion, with every item attempted. -/
theorem runs_done (hm : 0 < m) :
    let b := (Batch.approved n).runs outcome m (List.replicate ((n - 1) / m) r)
    b.reportsDone outcome m r = true ∧ ∀ i < n, i ∈ (b.run outcome m r).2.attempts := by
  intro b
  have hle : (n - 1) / m * m ≤ n - 1 := Nat.div_mul_le_self _ _
  have hlast : n ≤ (n - 1) / m * m + m := by
    have := Nat.lt_div_mul_add hm (a := n - 1)
    omega
  have hk : (n - 1) / m = 0 ∨ (n - 1) / m * m < n := by
    by_cases hn : n = 0
    · subst hn
      exact .inl (Nat.zero_div m)
    · exact .inr (by omega)
  obtain ⟨hs, hp, ha⟩ := runs_portions (r := r) hout hk
  have hclean : b.Clean n := runs_clean hout approved_clean _
  obtain ⟨hrest, hatt⟩ := run_portion (m := m) (r := r) hout hclean
  have hnil : (b.processed outcome m r).itemsToProcess r = [] := by
    rw [hrest, hp, List.drop_drop, List.drop_eq_nil_iff, List.length_range]
    exact hlast
  have hall : (b.processed outcome m r).attempts = List.range n := by
    rw [hatt, hp, ha, ← List.take_add, List.take_of_length_le]
    rw [List.length_range]
    exact hlast
  rcases run_cases b outcome m r with ⟨h, -⟩ | ⟨-, -, h, hd⟩ | ⟨-, h, -⟩
  · exact absurd hs h
  · refine ⟨hd, fun i hi => ?_⟩
    rw [h]
    show i ∈ (b.processed outcome m r).attempts
    rw [hall]
    exact List.mem_range.mpr hi
  · exact absurd hnil h

end Posted

/-! ## With a rejection -/

/-- A rejected item is never posted. -/
theorem runs_rejected {i : ℕ} (hi : outcome i = .rejected) (calls : List Bool) :
    ∀ {b : Batch}, i < b.items.length → b.items[i]? ≠ some .posted →
      i < (b.runs outcome m calls).items.length ∧ (b.runs outcome m calls).items[i]? ≠ some .posted := by
  induction calls with
  | nil => exact fun hlt hne => ⟨hlt, hne⟩
  | cons r calls ih =>
    intro b hlt hne
    have hproc : i < (b.processed outcome m r).items.length ∧
        (b.processed outcome m r).items[i]? ≠ some .posted := by
      refine ⟨by rwa [Batch.processed, attempts_length], ?_⟩
      rw [Batch.processed, attempts_item _ hlt]
      split
      · rw [hi]
        simp [Outcome.mark]
      · exact hne
    rcases run_cases b outcome m r with ⟨-, h, -⟩ | ⟨-, -, h, -⟩ | ⟨-, -, h, -⟩
    · exact ih (b := (b.run outcome m r).2) (by rw [h]; exact hlt) (by rw [h]; exact hne)
    · exact ih (b := (b.run outcome m r).2) (by rw [h]; exact hproc.1) (by rw [h]; exact hproc.2)
    · exact ih (b := (b.run outcome m r).2) (by rw [h]; exact hproc.1) (by rw [h]; exact hproc.2)

/-- A batch that is done has nothing left to process and refuses every further call. -/
theorem done_refuses (h : b.reportsDone outcome m r = true) (r' : Bool) :
    (b.run outcome m r).2.itemsToProcess r = [] ∧
      ((b.run outcome m r).2.run outcome m r').2 = (b.run outcome m r).2 := by
  rcases run_cases b outcome m r with ⟨-, -, hd⟩ | ⟨-, hnil, hb, -⟩ | ⟨-, -, -, hd⟩
  · rw [h] at hd
    exact nomatch hd
  · rw [hb]
    refine ⟨hnil, ?_⟩
    have hs : (b.processed outcome m r).finalStatus ≠ .processing := by
      unfold Batch.finalStatus
      split <;> simp
    unfold Batch.run
    rw [if_pos hs]
  · rw [h] at hd
    exact nomatch hd

/-- The calls of `Run` with one value of `retryFailed` finish a batch of `n` items, and a later call that retries
failed items attempts the next portion of them. -/
def FinishesAndRetries (outcome : ℕ → Outcome) (m n : ℕ) (r : Bool) : Prop :=
  ∃ k ≤ (n + m - 1) / m,
    let b := (Batch.approved n).runs outcome m (List.replicate k r)
    b.reportsDone outcome m r = true ∧ (∀ i < n, i ∈ (b.run outcome m r).2.attempts) ∧
      ∀ later : List Bool,
        let b' := (b.run outcome m r).2.runs outcome m later
        ∀ i ∈ b'.failedItems.take m, i ∈ (b'.run outcome m true).2.attempts.drop b'.attempts.length

/-- **A batch finishes with its failed items within reach exactly when the ledger rejects none of them.** -/
theorem finishes_and_retries_iff (outcome : ℕ → Outcome) {m : ℕ} (hm : 0 < m) (n : ℕ) (r : Bool) :
    FinishesAndRetries outcome m n r ↔ ∀ i < n, outcome i = .posted := by
  constructor
  · rintro ⟨k, -, hdone, -, hlater⟩ i hi
    by_contra hne
    have hrej : outcome i = .rejected := by cases h : outcome i <;> first | rfl | exact absurd h hne
    set b := (Batch.approved n).runs outcome m (List.replicate k r) with hb
    have hlt₀ : i < (Batch.approved n).items.length := by rwa [Batch.approved, List.length_replicate]
    have hne₀ : (Batch.approved n).items[i]? ≠ some .posted := by
      rw [Batch.approved, List.getElem?_replicate, if_pos hi]
      simp
    obtain ⟨hlt, hnp⟩ := runs_rejected (m := m) hrej (List.replicate (k + 1) r) hlt₀ hne₀
    rw [runs_succ, ← hb] at hlt hnp
    obtain ⟨hnil, hrefuse⟩ := done_refuses hdone true
    -- the rejected item is neither posted nor in the listing, so it has failed and is not retried
    have hnot : i ∉ (b.run outcome m r).2.itemsToProcess r := by rw [hnil]; exact List.not_mem_nil
    rw [mem_itemsToProcess, not_and] at hnot
    have hfailed : (b.run outcome m r).2.items[i]? = some .failed := by
      have hany := hnot hlt
      obtain ⟨s, hs⟩ : ∃ s, (b.run outcome m r).2.items[i]? = some s := ⟨_, List.getElem?_eq_getElem hlt⟩
      rw [hs] at hany hnp ⊢
      cases s with
      | pending => exact absurd rfl hany
      | posted => exact absurd rfl hnp
      | failed => rfl
    have hmem : i ∈ (b.run outcome m r).2.failedItems := by
      rw [Batch.failedItems, List.mem_filter]
      exact ⟨List.mem_range.mpr hlt, by simpa using hfailed⟩
    obtain ⟨j, rest, hcons⟩ := List.exists_cons_of_ne_nil (List.ne_nil_of_mem hmem)
    have hj : j ∈ (b.run outcome m r).2.failedItems.take m := by
      rw [hcons]
      cases m with
      | zero => exact absurd hm (Nat.lt_irrefl 0)
      | succ m => exact List.mem_cons_self
    have hagain := hlater [] j hj
    rw [Batch.runs, List.foldl_nil, hrefuse, List.drop_length] at hagain
    exact absurd hagain List.not_mem_nil
  · intro hout
    have hk : (n - 1) / m ≤ (n + m - 1) / m := Nat.div_le_div_right (by omega)
    obtain ⟨hdone, hall⟩ := runs_done (r := r) hout hm
    refine ⟨(n - 1) / m, hk, hdone, hall, fun later i hi => ?_⟩
    have hclean := runs_clean (m := m) hout (run_clean (m := m) (r := r) hout
      (runs_clean (m := m) hout approved_clean (List.replicate ((n - 1) / m) r))) later
    have hf := (List.mem_filter.mp (List.mem_of_mem_take hi)).2
    exact absurd (by simpa using hf) (hclean.2 i)

theorem finishes_and_retries_posted :
    0 < 500 ∧ (FinishesAndRetries (fun _ => .posted) 500 1200 false ↔ ∀ i < 1200, Outcome.posted = .posted) :=
  ⟨by decide, finishes_and_retries_iff _ (by decide) 1200 false⟩

/-- **A failed item is out of reach**: the second of two items is rejected, the run without the retry is done, and
the run that would retry the item refuses the batch. -/
theorem failed_out_of_reach :
    let outcome := fun i => if i = 1 then Outcome.rejected else .posted
    let b := (Batch.approved 2).run outcome 500 false
    b = (.ok ⟨2, 1, 1, true⟩, ⟨.completedWithErrors, [.posted, .failed], [0, 1]⟩) ∧
      (b.2.run outcome 500 true).1 = .error (.notApproved .completedWithErrors) ∧
      ¬ FinishesAndRetries outcome 500 2 false := by
  refine ⟨by decide +kernel, by decide +kernel, ?_⟩
  rintro ⟨k, hk, hdone, -, hlater⟩
  have hk' : k = 0 ∨ k = 1 := by omega
  rcases hk' with rfl | rfl
  · exact absurd (hlater [] 1 (by decide +kernel)) (by decide +kernel)
  · exact absurd hdone (by decide +kernel)

end Seev.Ledger.Disbursement
