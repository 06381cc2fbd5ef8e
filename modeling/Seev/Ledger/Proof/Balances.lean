import Seev.Lib.Result
import Seev.Ledger.World

/-!
# What the balance computations compute

The casts to `BIGINT` are exact where they succeed, and the two maps of
`execTransfer` hold what they should:

* `lookup_foldl_applyEntry`: folding entries over a map adds their net effect.
* `lookup_applyEntries`: a user account ends at its locked balance plus the net
  effect of its entries.
* `updateBalances_ok`, `applySystemDeltas_ok`: the rows the two statements write.
-/

namespace Seev.Ledger

open Lib

variable {rows : List (UUID × ℤ)}

/-! ## Integers in and out of columns -/

theorem inInt64_iff {n : ℤ} : Decimal.inInt64 n = true ↔ -2 ^ 63 ≤ n ∧ n < 2 ^ 63 := by
  rw [Decimal.inInt64, Bool.and_eq_true, decide_eq_true_iff, decide_eq_true_iff, Decimal.minInt64,
    Decimal.maxInt64]
  omega

theorem isInteger_iff {d : Decimal} : Decimal.isInteger d = true ↔ ∃ n : ℤ, d = n := by
  constructor
  · intro h
    exact ⟨d.num, (Rat.den_eq_one_iff d).1 (by simpa [Decimal.isInteger] using h) |>.symm⟩
  · rintro ⟨n, rfl⟩
    simp [Decimal.isInteger]

/-- A cast that succeeds is exact. -/
theorem toBigint_eq_some {d : Decimal} {n : ℤ} :
    Decimal.toBigint d = some n ↔ d = n ∧ Decimal.inInt64 n = true := by
  unfold Decimal.toBigint
  constructor
  · intro h
    split at h
    · rename_i hd
      rw [Bool.and_eq_true] at hd
      obtain ⟨m, rfl⟩ := isInteger_iff.1 hd.1
      cases h
      exact ⟨rfl, hd.2⟩
    · cases h
  · rintro ⟨rfl, hn⟩
    simp [hn, Decimal.isInteger]

/-- `IntPart` is exact on an integer that fits. -/
theorem intPart_intCast {n : ℤ} (h : Decimal.inInt64 n = true) : Decimal.intPart (n : ℚ) = n := by
  rw [inInt64_iff] at h
  simp only [Decimal.intPart, Rat.num_intCast, Rat.den_intCast, Nat.cast_one, Int.tdiv_one]
  exact Int.bmod_eq_of_le (by omega) (by omega)

/-! ## Maps of amounts -/

theorem lookup_applyEntry (m : AmountMap) (e : EntryInstruction) (a : UUID) :
    (applyEntry m e).lookup a =
      if e.accountID = a then some ((m.lookup a).getD 0 + e.posting.signed) else m.lookup a := by
  unfold applyEntry
  by_cases h : e.accountID = a
  · subst h
    simp [AList.lookup_insert]
  · rw [AList.lookup_insert_ne (Ne.symm h), if_neg h]

/-- Folding entries over a map adds their net effect to each account. -/
theorem lookup_foldl_applyEntry (es : List EntryInstruction) (m : AmountMap) (a : UUID) :
    ((es.foldl applyEntry m).lookup a).getD 0 =
      (m.lookup a).getD 0 + net (es.map EntryInstruction.posting) a := by
  induction es generalizing m with
  | nil => simp
  | cons e es ih =>
    rw [List.foldl_cons, ih, lookup_applyEntry, List.map_cons, net_cons]
    by_cases h : e.accountID = a
    · simp [h, EntryInstruction.posting, add_assoc]
    · simp [h, EntryInstruction.posting]

theorem mem_foldl_applyEntry (es : List EntryInstruction) (m : AmountMap) (a : UUID) :
    a ∈ es.foldl applyEntry m ↔ a ∈ m ∨ ∃ e ∈ es, e.accountID = a := by
  induction es generalizing m with
  | nil => simp
  | cons e es ih =>
    rw [List.foldl_cons, ih]
    simp only [applyEntry, AList.mem_insert, List.mem_cons, exists_eq_or_imp]
    constructor
    · rintro ((rfl | h) | h)
      · exact .inr (.inl rfl)
      · exact .inl h
      · exact .inr (.inr h)
    · rintro (h | rfl | h)
      · exact .inl (.inr h)
      · exact .inl (.inl rfl)
      · exact .inr h

theorem mem_sortedEntries {m : AmountMap} {a : UUID} {x : Decimal} :
    (⟨a, x⟩ : Σ _ : UUID, Decimal) ∈ sortedEntries m ↔ m.lookup a = some x := by
  rw [sortedEntries, (List.perm_insertionSort _ _).mem_iff, ← AList.mem_lookup_iff, Option.mem_def]

/-- The balance map a scan of accounts fills. -/
def balanceMap (rows : List AccountBalance) (m : AmountMap) : AmountMap :=
  rows.foldl (fun m ab => m.insert ab.accountID ab.balance) m

theorem accountBalance_id {E : Env} {db : Db} {id : UUID} {ab : AccountBalance}
    (h : accountBalance E db id = some ab) : ab.accountID = id := by
  simp only [accountBalance, Option.bind_eq_bind, Option.bind_eq_some_iff] at h
  obtain ⟨r, -, b, -, hab⟩ := h
  cases hab
  rfl

theorem lookup_balanceMap (E : Env) (db : Db) (ids : List UUID) (m : AmountMap) (a : UUID) :
    (balanceMap (getAccountFlags E db ids) m).lookup a =
      if a ∈ ids then ((accountBalance E db a).map AccountBalance.balance).or (m.lookup a)
      else m.lookup a := by
  induction ids generalizing m with
  | nil => simp [balanceMap, getAccountFlags]
  | cons id ids ih =>
    have ih' := fun m => ih m
    simp only [balanceMap, getAccountFlags] at ih' ⊢
    cases hid : accountBalance E db id with
    | none =>
      rw [List.filterMap_cons_none hid, ih']
      by_cases ha : a = id
      · subst ha
        by_cases hm : a ∈ ids <;> simp [hm, hid]
      · simp [ha]
    | some ab =>
      rw [List.filterMap_cons_some hid, List.foldl_cons, ih', accountBalance_id hid]
      by_cases ha : a = id
      · subst ha
        by_cases hm : a ∈ ids <;> simp [hm, hid, AList.lookup_insert]
      · simp [ha, AList.lookup_insert_ne ha]

/-- A user account ends at its scanned balance plus the net effect of its entries. -/
theorem lookup_applyEntries (E : Env) (db : Db) (ids : List UUID) (es : List EntryInstruction) (a : UUID) :
    ((applyEntries (getAccountFlags E db ids) es).lookup a).getD 0 =
      (if a ∈ ids then ((accountBalance E db a).map AccountBalance.balance).getD 0 else 0) +
        net (es.map EntryInstruction.posting) a := by
  have h := lookup_balanceMap E db ids ∅ a
  rw [applyEntries, lookup_foldl_applyEntry]
  simp only [balanceMap] at h
  rw [h]
  by_cases ha : a ∈ ids <;> simp [ha, AList.lookup_empty]

/-! ## The rows the statements write -/

/-- Looking an account up in rows made from a map is looking it up in the map. -/
theorem find_map_sortedEntries (m : AmountMap) (f : UUID → Decimal → ℤ) (a : UUID) :
    (((sortedEntries m).map fun r => (r.1, f r.1 r.2)).find? (·.1 = a)).map Prod.snd =
      (m.lookup a).map (f a) := by
  cases hf : ((sortedEntries m).map fun r => (r.1, f r.1 r.2)).find? (·.1 = a) with
  | none =>
    cases hm : m.lookup a with
    | none => rfl
    | some x =>
      have hmem := List.mem_map_of_mem (f := fun r : Σ _ : UUID, Decimal => (r.1, f r.1 r.2))
        (mem_sortedEntries.2 hm)
      have hne := List.find?_eq_none.1 hf _ hmem
      simp at hne
  | some p =>
    obtain ⟨⟨b, y⟩, hr, rfl⟩ := List.mem_map.1 (List.mem_of_find?_eq_some hf)
    have hb : b = a := by simpa using List.find?_some hf
    subst hb
    simp [mem_sortedEntries.1 hr]

/-- What `ApplySystemDeltas` needs of one account. -/
structure DeltaOK (E : Env) (db : Db) (a : UUID) (delta : Decimal) : Prop where
  integral : Decimal.isInteger delta = true
  row : (db.balances a).isSome
  allowed : balanceAllowed E a ((db.balances a).getD 0 + Decimal.intPart delta) = true

theorem systemDeltaRows_ok {E : Env} {db : Db} {l : List (Σ _ : UUID, Decimal)}
    (h : systemDeltaRows E db l = .ok rows) :
    rows = l.map (fun r => (r.1, (db.balances r.1).getD 0 + Decimal.intPart r.2)) ∧
      ∀ r ∈ l, DeltaOK E db r.1 r.2 := by
  induction l generalizing rows with
  | nil =>
    cases h
    simp
  | cons r l ih =>
    obtain ⟨a, delta⟩ := r
    rw [systemDeltaRows] at h
    cases hi : Decimal.isInteger delta with
    | false => simp [hi] at h
    | true =>
      cases hb : db.balances a with
      | none => simp [hi, hb] at h
      | some b =>
        cases hal : balanceAllowed E a (b + Decimal.intPart delta) with
        | false => simp [hi, hb, hal] at h
        | true =>
          simp only [hi, hb, hal, Bool.not_true, Bool.false_eq_true, if_false, pure_eq] at h
          obtain ⟨tail, htail, hrows⟩ := bind_eq_ok.1 h
          cases hrows
          obtain ⟨rfl, hall⟩ := ih htail
          refine ⟨by simp [hb], ?_⟩
          intro r hr
          rcases List.mem_cons.1 hr with rfl | hr
          · exact ⟨hi, by simp [hb], by simpa [hb] using hal⟩
          · exact hall r hr

/-- **`ApplySystemDeltas` adds each delta to the row it finds.** -/
theorem applySystemDeltas_ok {E : Env} {db : Db} {m : AmountMap} (h : applySystemDeltas E db m = .ok rows) :
    (∀ a, (rows.find? (·.1 = a)).map Prod.snd =
        (m.lookup a).map fun x => (db.balances a).getD 0 + Decimal.intPart x) ∧
      ∀ a x, m.lookup a = some x → DeltaOK E db a x := by
  obtain ⟨rfl, hall⟩ := systemDeltaRows_ok h
  exact ⟨find_map_sortedEntries m fun a x => (db.balances a).getD 0 + Decimal.intPart x,
    fun a x hx => hall ⟨a, x⟩ (mem_sortedEntries.2 hx)⟩

/-- What `UpdateBalances` needs of one account. -/
structure UpdateOK (E : Env) (db : Db) (a : UUID) (bal : Decimal) : Prop where
  integral : Decimal.isInteger bal = true
  row : (db.balances a).isSome
  allowed : balanceAllowed E a (Decimal.intPart bal) = true

/-- **`UpdateBalances` writes each balance to a row that exists.** -/
theorem updateBalances_ok {E : Env} {db : Db} {m : AmountMap} (h : updateBalances E db m = .ok rows) :
    (∀ a, (rows.find? (·.1 = a)).map Prod.snd = (m.lookup a).map Decimal.intPart) ∧
      ∀ a x, m.lookup a = some x → UpdateOK E db a x := by
  unfold updateBalances at h
  dsimp only at h
  split at h
  · cases h
  rename_i hint
  split at h
  · cases h
  rename_i hall
  split at h
  · cases h
  rename_i hlen
  cases h
  refine ⟨find_map_sortedEntries m fun _ => Decimal.intPart, fun a x hx => ?_⟩
  have hmem := mem_sortedEntries.2 hx
  -- the statement touched as many rows as there are keys, so it touched this one
  have hrow : (db.balances a).isSome := by
    have hf := List.length_filter_eq_length_iff.1 (not_not.1 hlen)
    simpa using hf _ hmem
  refine ⟨by simpa using List.find?_eq_none.1 hint _ hmem, hrow, ?_⟩
  by_contra hna
  refine hall (List.any_eq_true.2 ⟨⟨a, x⟩, List.mem_filter.2 ⟨hmem, hrow⟩, ?_⟩)
  simpa using hna

end Seev.Ledger
