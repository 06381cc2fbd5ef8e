import Mathlib.Tactic.FinCases
import Mathlib.Algebra.Order.Field.Power
import Mathlib.Data.List.TakeWhile
import Mathlib.Tactic.Positivity
import Mathlib.Tactic.Linarith

/-!
# Number literals

The texts that `math/big` reads as an integer or as a rational number: an optional sign, an optional
base prefix, digits with an optional radix point, single underscores between digits, and an
exponent of ten or of two. `Rat.SetString` may also fail on an exponent that is too large; this limit is
left out. Texts are lists of characters.

* `intSetString`: `Int.SetString` in base 10.
* `ratSetString`: `Rat.SetString`.
* `literal_pos_iff`: the texts of positive literals in one base, as a grammar.
* `digits_plain`: the value of a text of decimal digits.
-/

namespace Seev.Lib

/-! ## Digits -/

/-- The value of a digit; letters of either case follow the ten digits. -/
def digitVal (c : Char) : Option ℕ :=
  if '0' ≤ c ∧ c ≤ '9' then some (c.toNat - '0'.toNat)
  else if 'a' ≤ c ∧ c ≤ 'z' then some (c.toNat - 'a'.toNat + 10)
  else if 'A' ≤ c ∧ c ≤ 'Z' then some (c.toNat - 'A'.toNat + 10)
  else none

def digitIn (b : ℕ) (c : Char) : Option ℕ := (digitVal c).filter (· < b)

/-- Digits read so far: their value and their number. -/
structure Numeral where
  value : ℕ
  count : ℕ
  deriving DecidableEq, Repr

def Numeral.zero : Numeral := ⟨0, 0⟩

def Numeral.push (b : ℕ) (n : Numeral) (d : ℕ) : Numeral := ⟨n.value * b + d, n.count + 1⟩

/-- `{ [ "_" ] digit }`, separators only where they are allowed. -/
def moreDigits (b : ℕ) (sepOk : Bool) : Numeral → List Char → Option Numeral
  | n, [] => some n
  | n, '_' :: c :: cs =>
    if sepOk then (digitIn b c).bind fun d => moreDigits b sepOk (n.push b d) cs else none
  | n, c :: cs => (digitIn b c).bind fun d => moreDigits b sepOk (n.push b d) cs

/-- `digit { [ "_" ] digit }` -/
def digits (b : ℕ) (sepOk : Bool) (n : Numeral) : List Char → Option Numeral
  | [] => none
  | c :: cs => (digitIn b c).bind fun d => moreDigits b sepOk (n.push b d) cs

/-! ## Integers -/

/-- The base a letter behind a leading zero stands for. -/
def prefixBase (c : Char) : Option ℕ :=
  if c = 'b' ∨ c = 'B' then some 2
  else if c = 'o' ∨ c = 'O' then some 8
  else if c = 'x' ∨ c = 'X' then some 16
  else none

/-- The separator that may stand between a prefix and the first digit. -/
def dropSep : List Char → List Char
  | '_' :: cs => cs
  | cs => cs

/-- An unsigned integer in the base its prefix gives; a leading zero alone stands for base 8. -/
def natLiteral : List Char → Option ℕ
  | '0' :: c :: cs =>
    match prefixBase c with
    | some b => (digits b true .zero (dropSep cs)).map Numeral.value
    | none => (digits 8 true .zero (dropSep (c :: cs))).map Numeral.value
  | s => (digits 10 true .zero s).map Numeral.value

/-- `Int.SetString(s, 0)` -/
def intLiteral : List Char → Option ℤ
  | '-' :: cs => (natLiteral cs).map fun n => -(n : ℤ)
  | '+' :: cs => (natLiteral cs).map fun n => (n : ℤ)
  | cs => (natLiteral cs).map fun n => (n : ℤ)

/-- `Int.SetString(s, 10)`: no separators in a given base. -/
def intSetString : List Char → Option ℤ
  | '-' :: cs => (digits 10 false .zero cs).map fun n => -(n.value : ℤ)
  | '+' :: cs => (digits 10 false .zero cs).map fun n => (n.value : ℤ)
  | cs => (digits 10 false .zero cs).map fun n => (n.value : ℤ)

/-! ## Rational numbers -/

/-- A mantissa: the value of its digits, and how many of them stand behind the point. -/
structure Mantissa where
  value : ℕ
  fraction : ℕ
  deriving DecidableEq, Repr

/-- The digits before the point, behind the separator a prefix allows. -/
def lead (prefixed : Bool) (i : List Char) : List Char := if prefixed then dropSep i else i

/-- `digits "." [ digits ] | digits | "." digits`, with a separator in front of the first digit where
a prefix stands before it. -/
def mantissa (b : ℕ) (prefixed : Bool) (s : List Char) : Option Mantissa :=
  let i := s.takeWhile (· ≠ '.')
  let whole := digits b true .zero (lead prefixed i)
  match i, s.dropWhile (· ≠ '.') with
  | _, [] | _, [_] => whole.map fun n => ⟨n.value, 0⟩
  | [], _ :: f => (digits b true .zero f).map fun n => ⟨n.value, n.count⟩
  | _, _ :: f => whole.bind fun n => (digits b true ⟨n.value, 0⟩ f).map fun n => ⟨n.value, n.count⟩

/-- The letter that ends a mantissa in base `b`; `e` is a digit in base 16. -/
def isExponent (b : ℕ) (c : Char) : Bool :=
  c = 'p' ∨ c = 'P' ∨ (c = 'e' ∨ c = 'E') ∧ b ≠ 16

/-- The base of an exponent and its value. -/
def exponent : List Char → Option (ℕ × ℤ)
  | [] => some (10, 0)
  | c :: cs =>
    let base := if c = 'p' ∨ c = 'P' then 2 else 10
    match cs with
    | '-' :: ds => (digits 10 true .zero ds).map fun n => (base, -(n.value : ℤ))
    | '+' :: ds => (digits 10 true .zero ds).map fun n => (base, (n.value : ℤ))
    | ds => (digits 10 true .zero ds).map fun n => (base, (n.value : ℤ))

/-- A mantissa in base `b` and its exponent. -/
def literal (b : ℕ) (prefixed : Bool) (s : List Char) : Option ℚ := do
  let m ← mantissa b prefixed (s.takeWhile (!isExponent b ·))
  let (base, x) ← exponent (s.dropWhile (!isExponent b ·))
  return (m.value : ℚ) / b ^ m.fraction * base ^ x

/-- A number without a sign, in the base its prefix gives. -/
def ratLiteral : List Char → Option ℚ
  | '0' :: c :: cs =>
    match prefixBase c with
    | some b => literal b true cs
    | none => literal 10 false ('0' :: c :: cs)
  | s => literal 10 false s

/-- `Rat.SetString`: a fraction of two integers, or a number with a point and an exponent. -/
def ratSetString (s : List Char) : Option ℚ :=
  if '/' ∈ s then do
    let a ← intLiteral (s.takeWhile (· ≠ '/'))
    let b ← natLiteral (s.dropWhile (· ≠ '/')).tail
    if b = 0 then none else some (a / b : ℚ)
  else match s with
    | '-' :: cs => (ratLiteral cs).map fun v => -v
    | '+' :: cs => ratLiteral cs
    | cs => ratLiteral cs

/-! ## The grammar -/

/-- `{ [ "_" ] digit }` -/
inductive MoreDigits (b : ℕ) : List Char → Prop where
  | nil : MoreDigits b []
  | digit {c : Char} {cs : List Char} : (digitIn b c).isSome → MoreDigits b cs → MoreDigits b (c :: cs)
  | sep {c : Char} {cs : List Char} : (digitIn b c).isSome → MoreDigits b cs → MoreDigits b ('_' :: c :: cs)

/-- `digit { [ "_" ] digit }` -/
def IsDigits (b : ℕ) (s : List Char) : Prop :=
  ∃ c cs, s = c :: cs ∧ (digitIn b c).isSome ∧ MoreDigits b cs

/-- Digits, with a separator in front of them where a prefix stands before. -/
def IsWhole (b : ℕ) (prefixed : Bool) (i : List Char) : Prop :=
  IsDigits b i ∨ prefixed = true ∧ ∃ ds, i = '_' :: ds ∧ IsDigits b ds

inductive IsMantissa (b : ℕ) (prefixed : Bool) : List Char → Prop where
  | whole {i : List Char} : IsWhole b prefixed i → IsMantissa b prefixed i
  | point {i : List Char} : IsWhole b prefixed i → IsMantissa b prefixed (i ++ ['.'])
  | fraction {f : List Char} : IsDigits b f → IsMantissa b prefixed ('.' :: f)
  | both {i f : List Char} : IsWhole b prefixed i → IsDigits b f → IsMantissa b prefixed (i ++ '.' :: f)

/-- Some digit is not zero. -/
def NonZero (s : List Char) : Prop := ∃ c ∈ s, c ≠ '0' ∧ c ≠ '_' ∧ c ≠ '.'

/-- An exponent letter, an optional sign and digits, or nothing at all. -/
def IsExponent (b : ℕ) (e : List Char) : Prop :=
  e = [] ∨ ∃ c sign ds, e = c :: (sign ++ ds) ∧ isExponent b c = true ∧
    (sign = [] ∨ sign = ['-'] ∨ sign = ['+']) ∧ IsDigits 10 ds

variable {b : ℕ} {c : Char} {cs s : List Char} {n n' : Numeral}

theorem digitIn_eq_zero (hb : 0 < b) : digitIn b c = some 0 ↔ c = '0' := by
  constructor
  · intro h
    obtain ⟨hd, -⟩ := Option.filter_eq_some_iff.1 h
    unfold digitVal at hd
    split_ifs at hd with h0 ha hA
    · have hle := h0.1
      have hval := Option.some.inj hd
      rw [Char.le_def, UInt32.le_iff_toNat_le] at hle
      apply Char.toNat_inj.1
      change c.toNat - 48 = 0 at hval
      change 48 ≤ c.toNat at hle
      change c.toNat = 48
      omega
    · simp at hd
    · simp at hd
  · rintro rfl
    simp [digitIn, digitVal, hb]

theorem digitVal_none : digitVal '_' = none ∧ digitVal '.' = none ∧ digitVal '/' = none ∧
    digitVal '-' = none ∧ digitVal '+' = none := by
  decide

/-- A digit is none of the other characters of a literal. -/
theorem digit_ne (h : (digitIn b c).isSome) : c ≠ '_' ∧ c ≠ '.' ∧ c ≠ '/' ∧ c ≠ '-' ∧ c ≠ '+' := by
  obtain ⟨h1, h2, h3, h4, h5⟩ := digitVal_none
  refine ⟨?_, ?_, ?_, ?_, ?_⟩ <;> rintro rfl <;> simp [digitIn, *] at h

theorem digit_not_exponent (hb : b ≤ 10 ∨ b = 16) (h : (digitIn b c).isSome) : isExponent b c = false := by
  obtain ⟨d, hd⟩ := Option.isSome_iff_exists.1 h
  obtain ⟨hd, hlt⟩ := Option.filter_eq_some_iff.1 hd
  have hlt : d < b := by simpa using hlt
  have hletter : ∀ x, digitVal c = some x → c = 'p' ∨ c = 'P' → x = 25 := by
    rintro x hx (rfl | rfl) <;> exact (Option.some.inj hx).symm
  have he : ∀ x, digitVal c = some x → c = 'e' ∨ c = 'E' → x = 14 := by
    rintro x hx (rfl | rfl) <;> exact (Option.some.inj hx).symm
  by_contra hexp
  simp only [isExponent, Bool.not_eq_false, decide_eq_true_eq] at hexp
  rcases hexp with hp | hp | ⟨hp, hne⟩
  · have := hletter d hd (.inl hp)
    omega
  · have := hletter d hd (.inr hp)
    omega
  · have := he d hd hp
    omega

/-! ## Reading digits -/

theorem push_eq_zero (hb : 0 < b) {d : ℕ} (hd : digitIn b c = some d) :
    (n.push b d).value = 0 ↔ n.value = 0 ∧ c = '0' := by
  have hzero : d = 0 ↔ c = '0' := by
    rw [← digitIn_eq_zero hb, hd, Option.some.injEq]
  rw [← hzero]
  show n.value * b + d = 0 ↔ _
  rw [Nat.add_eq_zero_iff, Nat.mul_eq_zero]
  omega

theorem moreDigits_grammar (hb : 0 < b) (h : moreDigits b true n s = some n') :
    MoreDigits b s ∧ (n'.value = 0 ↔ n.value = 0 ∧ ∀ c ∈ s, c = '0' ∨ c = '_') := by
  induction n, s using moreDigits.induct b true with
  | case1 n =>
    cases h
    exact ⟨.nil, by simp⟩
  | case2 n c cs _ ih =>
    rw [moreDigits, if_pos rfl] at h
    obtain ⟨d, hd, h⟩ := Option.bind_eq_some_iff.1 h
    obtain ⟨hcs, hvalue⟩ := ih d h
    have hc : (digitIn b c).isSome := by simp [hd]
    refine ⟨.sep hc hcs, ?_⟩
    rw [hvalue, push_eq_zero hb hd]
    simp [and_assoc, (digit_ne hc).1]
  | case3 n c cs hsep => exact absurd rfl hsep
  | case4 n c cs hne ih =>
    rw [moreDigits] at h
    · obtain ⟨d, hd, h⟩ := Option.bind_eq_some_iff.1 h
      obtain ⟨hcs, hvalue⟩ := ih d h
      have hc : (digitIn b c).isSome := by simp [hd]
      refine ⟨.digit hc hcs, ?_⟩
      rw [hvalue, push_eq_zero hb hd]
      simp [and_assoc, (digit_ne hc).1]
    · exact hne

theorem MoreDigits.read (h : MoreDigits b s) (n : Numeral) : ∃ n', moreDigits b true n s = some n' := by
  induction h generalizing n with
  | nil => exact ⟨n, rfl⟩
  | @digit c cs hc _ ih =>
    obtain ⟨d, hd⟩ := Option.isSome_iff_exists.1 hc
    obtain ⟨n', hn'⟩ := ih (n.push b d)
    refine ⟨n', ?_⟩
    rw [moreDigits, hd]
    · exact hn'
    · rintro _ _ rfl -
      exact (digit_ne hc).1 rfl
  | @sep c cs hc _ ih =>
    obtain ⟨d, hd⟩ := Option.isSome_iff_exists.1 hc
    obtain ⟨n', hn'⟩ := ih (n.push b d)
    refine ⟨n', ?_⟩
    rw [moreDigits, if_pos rfl, hd]
    exact hn'

theorem digits_grammar (hb : 0 < b) (h : digits b true n s = some n') :
    IsDigits b s ∧ (n'.value = 0 ↔ n.value = 0 ∧ ∀ c ∈ s, c = '0' ∨ c = '_') := by
  cases s with
  | nil => cases h
  | cons c cs =>
    obtain ⟨d, hd, h⟩ := Option.bind_eq_some_iff.1 h
    obtain ⟨hcs, hvalue⟩ := moreDigits_grammar hb h
    have hc : (digitIn b c).isSome := by simp [hd]
    refine ⟨⟨c, cs, rfl, hc, hcs⟩, ?_⟩
    rw [hvalue, push_eq_zero hb hd]
    simp [and_assoc, (digit_ne hc).1]

theorem IsDigits.read (h : IsDigits b s) (n : Numeral) : ∃ n', digits b true n s = some n' := by
  obtain ⟨c, cs, rfl, hc, hcs⟩ := h
  obtain ⟨d, hd⟩ := Option.isSome_iff_exists.1 hc
  obtain ⟨n', hn'⟩ := hcs.read (n.push b d)
  exact ⟨n', by rw [digits, hd]; exact hn'⟩

/-- The characters of digits. -/
theorem MoreDigits.chars (h : MoreDigits b s) (hc : c ∈ s) : (digitIn b c).isSome ∨ c = '_' := by
  induction h with
  | nil => cases hc
  | digit hd _ ih =>
    rcases List.mem_cons.1 hc with rfl | hc
    · exact .inl hd
    · exact ih hc
  | sep hd _ ih =>
    rcases List.mem_cons.1 hc with rfl | hc
    · exact .inr rfl
    rcases List.mem_cons.1 hc with rfl | hc
    · exact .inl hd
    · exact ih hc

theorem IsDigits.chars (h : IsDigits b s) (hc : c ∈ s) : (digitIn b c).isSome ∨ c = '_' := by
  obtain ⟨_, _, rfl, hd, hcs⟩ := h
  rcases List.mem_cons.1 hc with rfl | hc
  · exact .inl hd
  · exact hcs.chars hc

theorem IsDigits.no_point (h : IsDigits b s) : '.' ∉ s := by
  intro hmem
  rcases h.chars hmem with hd | hd
  · exact (digit_ne hd).2.1 rfl
  · exact absurd hd (by decide)

theorem IsDigits.dropSep (h : IsDigits b s) : dropSep s = s := by
  obtain ⟨c, cs, rfl, hd, -⟩ := h
  unfold Lib.dropSep
  split
  · rename_i heq
    exact absurd (List.cons.inj heq).1 (digit_ne hd).1
  · rfl

theorem IsDigits.ne_nil (h : IsDigits b s) : s ≠ [] := by
  obtain ⟨c, cs, rfl, -, -⟩ := h
  exact List.cons_ne_nil c cs

/-! ## Reading a mantissa -/

variable {prefixed : Bool} {i f : List Char}

theorem IsWhole.no_point (h : IsWhole b prefixed i) : '.' ∉ i := by
  rcases h with h | ⟨-, ds, rfl, h⟩
  · exact h.no_point
  · simp [h.no_point]

theorem IsWhole.ne_nil (h : IsWhole b prefixed i) : i ≠ [] := by
  rcases h with h | ⟨-, ds, rfl, -⟩
  · exact h.ne_nil
  · exact List.cons_ne_nil _ _

theorem IsWhole.read (h : IsWhole b prefixed i) (n : Numeral) :
    ∃ n', digits b true n (lead prefixed i) = some n' := by
  rcases h with h | ⟨rfl, ds, rfl, h⟩
  · have hlead : lead prefixed i = i := by
      unfold lead
      split
      · exact h.dropSep
      · rfl
    rw [hlead]
    exact h.read n
  · exact h.read n

theorem whole_grammar (hb : 0 < b) (h : digits b true n (lead prefixed i) = some n') :
    IsWhole b prefixed i ∧ (n'.value = 0 ↔ n.value = 0 ∧ ∀ c ∈ i, c = '0' ∨ c = '_') := by
  obtain ⟨hdigits, hvalue⟩ := digits_grammar hb h
  unfold lead dropSep at hdigits hvalue
  split at hdigits
  · split at hdigits
    · rename_i hpre _ ds
      simp only [if_pos hpre] at hvalue
      exact ⟨.inr ⟨hpre, ds, rfl, hdigits⟩, by simpa using hvalue⟩
    · rename_i hpre _ hne
      rw [if_pos hpre] at hvalue
      split at hvalue
      · exact absurd rfl (hne _)
      · exact ⟨.inl hdigits, hvalue⟩
  · rename_i hpre
    rw [if_neg hpre] at hvalue
    exact ⟨.inl hdigits, hvalue⟩

theorem ne_of_not_mem (h : c ∉ i) : ∀ x ∈ i, decide (x ≠ c) = true := by
  intro x hx
  simp only [ne_eq, decide_not, Bool.not_eq_eq_eq_not, Bool.not_true, decide_eq_false_iff_not]
  rintro rfl
  exact h hx

/-- A text, cut at the first `c`. -/
theorem cut_append (h : c ∉ i) :
    (i ++ c :: f).takeWhile (· ≠ c) = i ∧ (i ++ c :: f).dropWhile (· ≠ c) = c :: f := by
  constructor
  · rw [List.takeWhile_append_of_pos (ne_of_not_mem h)]
    simp
  · rw [List.dropWhile_append_of_pos (ne_of_not_mem h)]
    simp

theorem mantissa_whole (h : '.' ∉ i) :
    mantissa b prefixed i = (digits b true .zero (lead prefixed i)).map fun n => ⟨n.value, 0⟩ := by
  unfold mantissa
  rw [List.takeWhile_eq_self_iff.2 (ne_of_not_mem h), List.dropWhile_eq_nil_iff.2 (ne_of_not_mem h)]

theorem mantissa_point (h : '.' ∉ i) :
    mantissa b prefixed (i ++ ['.']) = (digits b true .zero (lead prefixed i)).map fun n => ⟨n.value, 0⟩ := by
  obtain ⟨htake, hdrop⟩ := cut_append (f := []) h
  unfold mantissa
  rw [htake, hdrop]

theorem mantissa_fraction (hf : f ≠ []) :
    mantissa b prefixed ('.' :: f) = (digits b true .zero f).map fun n => ⟨n.value, n.count⟩ := by
  obtain ⟨c, cs, rfl⟩ := List.exists_cons_of_ne_nil hf
  rfl

theorem mantissa_both (hi : i ≠ []) (h : '.' ∉ i) (hf : f ≠ []) :
    mantissa b prefixed (i ++ '.' :: f) = (digits b true .zero (lead prefixed i)).bind fun n =>
      (digits b true ⟨n.value, 0⟩ f).map fun n => ⟨n.value, n.count⟩ := by
  obtain ⟨c, cs, rfl⟩ := List.exists_cons_of_ne_nil hf
  obtain ⟨d, ds, rfl⟩ := List.exists_cons_of_ne_nil hi
  obtain ⟨htake, hdrop⟩ := cut_append (f := c :: cs) h
  unfold mantissa
  rw [htake, hdrop]

theorem not_nonZero : ¬ NonZero s ↔ ∀ c ∈ s, c = '0' ∨ c = '_' ∨ c = '.' := by
  unfold NonZero
  push Not
  refine forall₂_congr fun c _ => ?_
  tauto

theorem nonZero_iff_of_no_point (h : '.' ∉ s) : NonZero s ↔ ¬ ∀ c ∈ s, c = '0' ∨ c = '_' := by
  rw [← not_iff_not, not_nonZero, not_not]
  refine forall₂_congr fun c hc => ?_
  have hne : c ≠ '.' := fun heq => h (heq ▸ hc)
  simp [hne]

theorem nonZero_append_point : NonZero (i ++ '.' :: f) ↔ NonZero i ∨ NonZero f := by
  simp [NonZero, or_and_right, exists_or]

theorem not_nonZero_nil : ¬ NonZero [] := by
  simp [NonZero]

/-- **What a mantissa that is read looks like.** -/
theorem mantissa_grammar (hb : 0 < b) {m : Mantissa} (h : mantissa b prefixed s = some m) :
    IsMantissa b prefixed s ∧ (0 < m.value ↔ NonZero s) := by
  by_cases hpoint : '.' ∈ s
  · obtain ⟨i, f, rfl, hi⟩ := List.eq_append_cons_of_mem hpoint
    rw [nonZero_append_point, Nat.pos_iff_ne_zero]
    rcases eq_or_ne f [] with rfl | hf
    · rw [mantissa_point hi] at h
      obtain ⟨n, hn, rfl⟩ := Option.map_eq_some_iff.1 h
      obtain ⟨hwhole, hvalue⟩ := whole_grammar hb hn
      refine ⟨.point hwhole, ?_⟩
      simp [hvalue, Numeral.zero, nonZero_iff_of_no_point hi, not_nonZero_nil]
    rcases eq_or_ne i [] with rfl | hne
    · rw [List.nil_append, mantissa_fraction hf] at h
      obtain ⟨n, hn, rfl⟩ := Option.map_eq_some_iff.1 h
      obtain ⟨hdigits, hvalue⟩ := digits_grammar hb hn
      refine ⟨.fraction hdigits, ?_⟩
      simp [hvalue, Numeral.zero, nonZero_iff_of_no_point hdigits.no_point, not_nonZero_nil]
    · rw [mantissa_both hne hi hf] at h
      obtain ⟨n, hn, h⟩ := Option.bind_eq_some_iff.1 h
      obtain ⟨n', hn', rfl⟩ := Option.map_eq_some_iff.1 h
      obtain ⟨hwhole, hvalue⟩ := whole_grammar hb hn
      obtain ⟨hdigits, hvalue'⟩ := digits_grammar hb hn'
      refine ⟨.both hwhole hdigits, ?_⟩
      rw [nonZero_iff_of_no_point hi, nonZero_iff_of_no_point hdigits.no_point]
      simp only [ne_eq, hvalue', hvalue, Numeral.zero, true_and]
      tauto
  · rw [mantissa_whole hpoint] at h
    obtain ⟨n, hn, rfl⟩ := Option.map_eq_some_iff.1 h
    obtain ⟨hwhole, hvalue⟩ := whole_grammar hb hn
    refine ⟨.whole hwhole, ?_⟩
    rw [nonZero_iff_of_no_point hpoint, Nat.pos_iff_ne_zero]
    simp [hvalue, Numeral.zero]

/-- **Every mantissa is read.** -/
theorem IsMantissa.read (h : IsMantissa b prefixed s) : ∃ m, mantissa b prefixed s = some m := by
  cases h with
  | whole hi =>
    obtain ⟨n, hn⟩ := hi.read .zero
    exact ⟨_, by rw [mantissa_whole hi.no_point, hn]; rfl⟩
  | point hi =>
    obtain ⟨n, hn⟩ := hi.read .zero
    exact ⟨_, by rw [mantissa_point hi.no_point, hn]; rfl⟩
  | fraction hf =>
    obtain ⟨n, hn⟩ := hf.read .zero
    exact ⟨_, by rw [mantissa_fraction hf.ne_nil, hn]; rfl⟩
  | both hi hf =>
    obtain ⟨n, hn⟩ := hi.read .zero
    obtain ⟨n', hn'⟩ := hf.read ⟨n.value, 0⟩
    exact ⟨_, by rw [mantissa_both hi.ne_nil hi.no_point hf.ne_nil, hn, Option.bind_some, hn']; rfl⟩

theorem IsWhole.chars (h : IsWhole b prefixed i) (hc : c ∈ i) : (digitIn b c).isSome ∨ c = '_' := by
  rcases h with h | ⟨-, ds, rfl, h⟩
  · exact h.chars hc
  rcases List.mem_cons.1 hc with rfl | hc
  · exact .inr rfl
  · exact h.chars hc

theorem IsMantissa.chars (h : IsMantissa b prefixed s) (hc : c ∈ s) :
    (digitIn b c).isSome ∨ c = '_' ∨ c = '.' := by
  cases h with
  | whole hi => exact (hi.chars hc).imp_right .inl
  | point hi =>
    rcases List.mem_append.1 hc with hc | hc
    · exact (hi.chars hc).imp_right .inl
    · exact .inr (.inr (List.mem_singleton.1 hc))
  | fraction hf =>
    rcases List.mem_cons.1 hc with hc | hc
    · exact .inr (.inr hc)
    · exact (hf.chars hc).imp_right .inl
  | both hi hf =>
    rcases List.mem_append.1 hc with hc | hc
    · exact (hi.chars hc).imp_right .inl
    rcases List.mem_cons.1 hc with hc | hc
    · exact .inr (.inr hc)
    · exact (hf.chars hc).imp_right .inl

/-! ## Literals -/

theorem exponent_grammar {x : ℕ × ℤ} (h : exponent (c :: cs) = some x) (hc : isExponent b c = true) :
    IsExponent b (c :: cs) ∧ 0 < x.1 := by
  have hbase : 0 < (if c = 'p' ∨ c = 'P' then 2 else 10 : ℕ) := by
    split <;> decide
  unfold exponent at h
  dsimp only at h
  split at h
  · rename_i ds
    obtain ⟨n, hn, rfl⟩ := Option.map_eq_some_iff.1 h
    exact ⟨.inr ⟨c, ['-'], ds, rfl, hc, .inr (.inl rfl), (digits_grammar (by decide) hn).1⟩, hbase⟩
  · rename_i ds
    obtain ⟨n, hn, rfl⟩ := Option.map_eq_some_iff.1 h
    exact ⟨.inr ⟨c, ['+'], ds, rfl, hc, .inr (.inr rfl), (digits_grammar (by decide) hn).1⟩, hbase⟩
  · obtain ⟨n, hn, rfl⟩ := Option.map_eq_some_iff.1 h
    exact ⟨.inr ⟨c, [], cs, rfl, hc, .inl rfl, (digits_grammar (by decide) hn).1⟩, hbase⟩

theorem IsExponent.read {e : List Char} (h : IsExponent b e) : ∃ x, exponent e = some x := by
  rcases h with rfl | ⟨c, sign, ds, rfl, -, hsign, hds⟩
  · exact ⟨_, rfl⟩
  obtain ⟨n, hn⟩ := hds.read .zero
  rcases hsign with rfl | rfl | rfl
  · obtain ⟨d, ds, rfl, hd, -⟩ := hds
    refine ⟨(if c = 'p' ∨ c = 'P' then 2 else 10, n.value), ?_⟩
    -- a digit is not a sign
    rw [List.nil_append, exponent, hn]
    · rfl
    · intro _ heq
      exact (digit_ne hd).2.2.2.1 (List.cons.inj heq).1
    · intro _ heq
      exact (digit_ne hd).2.2.2.2 (List.cons.inj heq).1
  · exact ⟨_, by rw [List.singleton_append, exponent, hn]; rfl⟩
  · exact ⟨_, by rw [List.singleton_append, exponent, hn]; rfl⟩

/-- **The texts of positive literals in one base.** -/
theorem literal_pos_iff (hb : 0 < b) (hb' : b ≤ 10 ∨ b = 16) :
    (∃ v, literal b prefixed s = some v ∧ 0 < v) ↔
      ∃ m e, s = m ++ e ∧ IsMantissa b prefixed m ∧ NonZero m ∧ IsExponent b e := by
  constructor
  · rintro ⟨v, hv, hpos⟩
    unfold literal at hv
    obtain ⟨m, hm, hv⟩ := Option.bind_eq_some_iff.1 hv
    obtain ⟨⟨base, x⟩, hx, hv⟩ := Option.bind_eq_some_iff.1 hv
    obtain ⟨hmantissa, hvalue⟩ := mantissa_grammar hb hm
    refine ⟨s.takeWhile (!isExponent b ·), s.dropWhile (!isExponent b ·), List.takeWhile_append_dropWhile.symm,
      hmantissa, ?_, ?_⟩
    · rw [← hvalue, Nat.pos_iff_ne_zero]
      intro hzero
      cases hv
      simp [hzero] at hpos
    · -- the text behind the mantissa starts with the letter that ended it
      cases hdrop : s.dropWhile (!isExponent b ·) with
      | nil => exact .inl rfl
      | cons c cs =>
        rw [hdrop] at hx
        have hc := List.head_dropWhile_not (!isExponent b ·) (l := s) (by simp [hdrop])
        simp only [hdrop, List.head_cons, Bool.not_eq_eq_eq_not, Bool.not_false] at hc
        exact (exponent_grammar hx hc).1
  · rintro ⟨m, e, rfl, hm, hnz, he⟩
    obtain ⟨m', hm'⟩ := hm.read
    obtain ⟨⟨base, x⟩, hx⟩ := he.read
    have hall : ∀ c ∈ m, (!isExponent b c) = true := by
      intro c hc
      rcases hm.chars hc with hd | rfl | rfl
      · rw [digit_not_exponent hb' hd]
        rfl
      · rfl
      · rfl
    have hcut : (m ++ e).takeWhile (!isExponent b ·) = m ∧ (m ++ e).dropWhile (!isExponent b ·) = e := by
      rw [List.takeWhile_append_of_pos hall, List.dropWhile_append_of_pos hall]
      rcases he with rfl | ⟨c, sign, ds, rfl, hc, -⟩
      · simp
      · simp [hc]
    have hbase : 0 < base := by
      rcases he with rfl | ⟨c, sign, ds, rfl, hc, -⟩
      · cases hx
        decide
      · exact (exponent_grammar hx hc).2
    have hvalue : 0 < m'.value := (mantissa_grammar hb hm').2.2 hnz
    refine ⟨(m'.value : ℚ) / b ^ m'.fraction * base ^ x, ?_, by positivity⟩
    unfold literal
    rw [hcut.1, hcut.2, hm', hx]
    rfl

/-- A positive number: a mantissa in base 10 or behind a base prefix, and an exponent. -/
inductive IsPositive : List Char → Prop where
  | decimal {m e : List Char} : IsMantissa 10 false m → NonZero m → IsExponent 10 e → IsPositive (m ++ e)
  | based {c : Char} {b : ℕ} {m e : List Char} : prefixBase c = some b → IsMantissa b true m → NonZero m →
      IsExponent b e → IsPositive ('0' :: c :: (m ++ e))

theorem prefixBase_eq (h : prefixBase c = some b) : b = 2 ∨ b = 8 ∨ b = 16 := by
  unfold prefixBase at h
  split_ifs at h <;> cases h <;> simp

/-- The letter of a prefix has no place in a decimal literal. -/
theorem mem_of_prefixBase (h : prefixBase c = some b) : c ∈ ['b', 'B', 'o', 'O', 'x', 'X'] := by
  unfold prefixBase at h
  split_ifs at h with h2 h8 h16
  · rcases h2 with rfl | rfl <;> decide
  · rcases h8 with rfl | rfl <;> decide
  · rcases h16 with rfl | rfl <;> decide

theorem prefixBase_of_decimal (h : (digitIn 10 c).isSome ∨ c = '_' ∨ c = '.' ∨ isExponent 10 c = true) :
    prefixBase c = none := by
  have hletter : ∀ d ∈ ['b', 'B', 'o', 'O', 'x', 'X'],
      ¬ ((digitIn 10 d).isSome ∨ d = '_' ∨ d = '.' ∨ isExponent 10 d = true) := by
    intro d hd
    fin_cases hd <;> decide +kernel
  unfold prefixBase
  split_ifs with h2 h8 h16
  · exact absurd h (hletter c (by rcases h2 with rfl | rfl <;> decide +kernel))
  · exact absurd h (hletter c (by rcases h8 with rfl | rfl <;> decide +kernel))
  · exact absurd h (hletter c (by rcases h16 with rfl | rfl <;> decide +kernel))
  · rfl

theorem IsMantissa.ne_nil (h : IsMantissa b prefixed s) : s ≠ [] := by
  cases h with
  | whole hi => exact hi.ne_nil
  | point | fraction | both => simp

/-- **The texts of positive numbers without a sign.** -/
theorem ratLiteral_pos_iff : (∃ v, ratLiteral s = some v ∧ 0 < v) ↔ IsPositive s := by
  have hdecimal : ∀ s, (∃ v, literal 10 false s = some v ∧ 0 < v) → IsPositive s := by
    intro s h
    obtain ⟨m, e, rfl, hm, hnz, he⟩ := (literal_pos_iff (by decide) (by decide)).1 h
    exact .decimal hm hnz he
  have hbased : ∀ {b}, b = 2 ∨ b = 8 ∨ b = 16 → 0 < b ∧ (b ≤ 10 ∨ b = 16) := by
    omega
  constructor
  · intro h
    unfold ratLiteral at h
    split at h
    · rename_i c cs
      split at h
      · rename_i b hprefix
        obtain ⟨hpos, hb⟩ := hbased (prefixBase_eq hprefix)
        obtain ⟨m, e, rfl, hm, hnz, he⟩ := (literal_pos_iff hpos hb).1 h
        exact .based hprefix hm hnz he
      · exact hdecimal _ h
    · exact hdecimal _ h
  · intro h
    cases h with
    | @decimal m e hm hnz he =>
      have hread := (literal_pos_iff (s := m ++ e) (by decide : 0 < 10) (by decide)).2 ⟨m, e, rfl, hm, hnz, he⟩
      unfold ratLiteral
      split
      · rename_i c cs heq
        -- the second character belongs to the mantissa or starts the exponent
        have hc : prefixBase c = none := by
          obtain ⟨d, m, rfl⟩ := List.exists_cons_of_ne_nil hm.ne_nil
          apply prefixBase_of_decimal
          cases m with
          | nil =>
            rcases he with rfl | ⟨x, sign, ds, rfl, hx, -⟩
            · cases heq
            · cases heq
              exact .inr (.inr (.inr hx))
          | cons x m =>
            have hx : c = x := (List.cons.inj (List.cons.inj heq).2).1.symm
            subst hx
            rcases hm.chars (List.mem_cons_of_mem _ List.mem_cons_self) with h | h | h
            · exact .inl h
            · exact .inr (.inl h)
            · exact .inr (.inr (.inl h))
        rw [hc, ← heq]
        exact hread
      · exact hread
    | @based c b m e hprefix hm hnz he =>
      obtain ⟨hpos, hb⟩ := hbased (prefixBase_eq hprefix)
      rw [ratLiteral, hprefix]
      exact (literal_pos_iff hpos hb).2 ⟨m, e, rfl, hm, hnz, he⟩

theorem digitVal_of_digitIn (h : (digitIn b c).isSome) : (digitVal c).isSome := by
  obtain ⟨d, hd⟩ := Option.isSome_iff_exists.1 h
  obtain ⟨hd, -⟩ := Option.filter_eq_some_iff.1 hd
  simp [hd]

theorem IsExponent.chars {e : List Char} (h : IsExponent b e) (hc : c ∈ e) :
    (digitVal c).isSome ∨ c = '_' ∨ c = '-' ∨ c = '+' := by
  rcases h with rfl | ⟨x, sign, ds, rfl, hx, hsign, hds⟩
  · cases hc
  rcases List.mem_cons.1 hc with rfl | hc
  · left
    simp only [isExponent, decide_eq_true_eq] at hx
    rcases hx with rfl | rfl | ⟨rfl | rfl, -⟩ <;> decide
  rcases List.mem_append.1 hc with hc | hc
  · rcases hsign with rfl | rfl | rfl
    · cases hc
    · exact .inr (.inr (.inl (List.mem_singleton.1 hc)))
    · exact .inr (.inr (.inr (List.mem_singleton.1 hc)))
  · rcases hds.chars hc with hd | hd
    · exact .inl (digitVal_of_digitIn hd)
    · exact .inr (.inl hd)

theorem IsPositive.chars (h : IsPositive s) (hc : c ∈ s) :
    (digitVal c).isSome ∨ c = '_' ∨ c = '.' ∨ c = '-' ∨ c = '+' := by
  have hmantissa : ∀ {b prefixed m}, IsMantissa b prefixed m → c ∈ m →
      (digitVal c).isSome ∨ c = '_' ∨ c = '.' ∨ c = '-' ∨ c = '+' := by
    intro b prefixed m hm hc
    rcases hm.chars hc with hd | hd | hd
    · exact .inl (digitVal_of_digitIn hd)
    · exact .inr (.inl hd)
    · exact .inr (.inr (.inl hd))
  have hexponent : ∀ {b e}, IsExponent b e → c ∈ e →
      (digitVal c).isSome ∨ c = '_' ∨ c = '.' ∨ c = '-' ∨ c = '+' := by
    intro b e he hc
    rcases he.chars hc with hd | hd | hd | hd <;> simp [hd]
  cases h with
  | decimal hm _ he =>
    rcases List.mem_append.1 hc with hc | hc
    · exact hmantissa hm hc
    · exact hexponent he hc
  | @based x b m e hprefix hm _ he =>
    rcases List.mem_cons.1 hc with rfl | hc
    · exact .inl (by decide)
    rcases List.mem_cons.1 hc with rfl | hc
    · have hdigits : (['b', 'B', 'o', 'O', 'x', 'X'].all fun x => (digitVal x).isSome) = true := by decide
      exact .inl (List.all_eq_true.1 hdigits _ (mem_of_prefixBase hprefix))
    rcases List.mem_append.1 hc with hc | hc
    · exact hmantissa hm hc
    · exact hexponent he hc

/-- A sign does not start a positive number that is read without one. -/
theorem IsPositive.head (h : IsPositive s) : s.head? ≠ some '-' ∧ s.head? ≠ some '+' := by
  cases h with
  | decimal hm _ _ =>
    obtain ⟨c, m, rfl⟩ := List.exists_cons_of_ne_nil hm.ne_nil
    simp only [List.cons_append, List.head?_cons, ne_eq, Option.some.injEq]
    rcases hm.chars List.mem_cons_self with hd | rfl | rfl
    · exact ⟨(digit_ne hd).2.2.2.1, (digit_ne hd).2.2.2.2⟩
    · decide
    · decide
  | based => simp

theorem IsPositive.no_slash (h : IsPositive s) : '/' ∉ s := by
  intro hc
  exact absurd (h.chars hc) (by decide)

theorem IsPositive.ne_nil (h : IsPositive s) : s ≠ [] := by
  cases h with
  | decimal hm _ _ => simp [hm.ne_nil]
  | based => simp

/-! ## Decimal digits -/

theorem digitIn_ten (h : c.isDigit = true) : digitIn 10 c = some (c.toNat - '0'.toNat) := by
  have hrange : 48 ≤ c.toNat ∧ c.toNat ≤ 57 := Char.isDigit_iff_toNat.1 h
  have hle : '0' ≤ c ∧ c ≤ '9' := by
    simp only [Char.le_def, UInt32.le_iff_toNat_le]
    exact hrange
  have hlt : c.toNat - '0'.toNat < 10 := by
    show c.toNat - 48 < 10
    omega
  rw [digitIn, digitVal, if_pos hle, Option.filter_some, if_pos (by simpa using hlt)]

theorem isDigit_of_digitIn (h : (digitIn 10 c).isSome) : c.isDigit = true := by
  obtain ⟨d, hd⟩ := Option.isSome_iff_exists.1 h
  obtain ⟨hd, hlt⟩ := Option.filter_eq_some_iff.1 hd
  have hlt : d < 10 := by simpa using hlt
  unfold digitVal at hd
  split_ifs at hd with h0
  · simp only [Char.le_def, UInt32.le_iff_toNat_le] at h0
    exact Char.isDigit_iff_toNat.2 h0
  · cases hd
    omega
  · cases hd
    omega

theorem moreDigits_plain (sepOk : Bool) (n : Numeral) (h : ∀ c ∈ s, c.isDigit = true) :
    moreDigits 10 sepOk n s = some ⟨Nat.ofDigitChars 10 s n.value, n.count + s.length⟩ := by
  induction s generalizing n with
  | nil => rfl
  | cons c cs ih =>
    have hc := h c List.mem_cons_self
    have hcs := ih (n.push 10 (c.toNat - '0'.toNat)) fun d hd => h d (List.mem_cons_of_mem _ hd)
    rw [moreDigits, digitIn_ten hc, Option.bind_some, hcs]
    · simp [Numeral.push, Nat.ofDigitChars, Nat.mul_comm]
      omega
    · rintro _ _ rfl -
      exact absurd hc (by decide)

/-- **The value of a text of decimal digits.** -/
theorem digits_plain (sepOk : Bool) (n : Numeral) (hs : s ≠ []) (h : ∀ c ∈ s, c.isDigit = true) :
    digits 10 sepOk n s = some ⟨Nat.ofDigitChars 10 s n.value, n.count + s.length⟩ := by
  obtain ⟨c, cs, rfl⟩ := List.exists_cons_of_ne_nil hs
  have hread := moreDigits_plain sepOk n h
  rw [moreDigits] at hread
  · exact hread
  · rintro _ _ rfl -
    exact absurd (h '_' List.mem_cons_self) (by decide)

theorem plain_of_moreDigits (h : moreDigits 10 false n s = some n') (hc : c ∈ s) : c.isDigit = true := by
  induction n, s using moreDigits.induct 10 false with
  | case1 n => cases hc
  | case2 n d cs hsep => cases hsep
  | case3 n d cs =>
    rw [moreDigits] at h
    cases h
  | case4 n d cs hne ih =>
    rw [moreDigits] at h
    · obtain ⟨x, hx, h⟩ := Option.bind_eq_some_iff.1 h
      rcases List.mem_cons.1 hc with rfl | hc
      · exact isDigit_of_digitIn (by simp [hx])
      · exact ih x h hc
    · exact hne

/-- Without separators only digits are read. -/
theorem plain_of_digits (h : digits 10 false n s = some n') : s ≠ [] ∧ ∀ c ∈ s, c.isDigit = true := by
  cases s with
  | nil => cases h
  | cons d cs =>
    obtain ⟨x, hx, h⟩ := Option.bind_eq_some_iff.1 h
    refine ⟨List.cons_ne_nil _ _, fun c hc => ?_⟩
    rcases List.mem_cons.1 hc with rfl | hc
    · exact isDigit_of_digitIn (by simp [hx])
    · exact plain_of_moreDigits h hc

/-- Digits and points alone are read in base 10, with no exponent. -/
theorem ratLiteral_decimal (h : ∀ c ∈ s, c.isDigit = true ∨ c = '.') :
    ratLiteral s = (mantissa 10 false s).map fun m => (m.value : ℚ) / 10 ^ m.fraction := by
  have hall : ∀ c ∈ s, (!isExponent 10 c) = true := by
    intro c hc
    rcases h c hc with hd | rfl
    · rw [digit_not_exponent (by decide) (by simp [digitIn_ten hd])]
      rfl
    · rfl
  have hliteral : literal 10 false s = (mantissa 10 false s).map fun m => (m.value : ℚ) / 10 ^ m.fraction := by
    unfold literal
    rw [List.takeWhile_eq_self_iff.2 hall, List.dropWhile_eq_nil_iff.2 hall]
    cases mantissa 10 false s <;> simp [exponent]
  rw [← hliteral]
  unfold ratLiteral
  split
  · rename_i c cs
    have hc : prefixBase c = none := by
      apply prefixBase_of_decimal
      rcases h c (by simp) with hd | rfl
      · exact .inl (by simp [digitIn_ten hd])
      · exact .inr (.inr (.inl rfl))
    rw [hc]
  · rfl

theorem no_point_of_plain (h : ∀ c ∈ s, c.isDigit = true) : '.' ∉ s := by
  intro hc
  exact absurd (h '.' hc) (by decide)

theorem ratLiteral_whole (hi : i ≠ []) (h : ∀ c ∈ i, c.isDigit = true) :
    ratLiteral i = some (Nat.ofDigitChars 10 i 0 : ℚ) := by
  rw [ratLiteral_decimal fun c hc => .inl (h c hc), mantissa_whole (no_point_of_plain h)]
  show ((digits 10 true .zero i).map _).map _ = _
  rw [digits_plain true .zero hi h]
  simp [Numeral.zero]

/-- **The value of a decimal with a point.** -/
theorem ratLiteral_point (hne : i ≠ [] ∨ f ≠ []) (hi : ∀ c ∈ i, c.isDigit = true)
    (hf : ∀ c ∈ f, c.isDigit = true) :
    ratLiteral (i ++ '.' :: f) = some ((Nat.ofDigitChars 10 (i ++ f) 0 : ℚ) / 10 ^ f.length) := by
  have hchars : ∀ c ∈ i ++ '.' :: f, c.isDigit = true ∨ c = '.' := by
    intro c hc
    rcases List.mem_append.1 hc with hc | hc
    · exact .inl (hi c hc)
    rcases List.mem_cons.1 hc with hc | hc
    · exact .inr hc
    · exact .inl (hf c hc)
  rw [ratLiteral_decimal hchars]
  rcases eq_or_ne f [] with rfl | hf'
  · rw [mantissa_point (no_point_of_plain hi)]
    show ((digits 10 true .zero i).map _).map _ = _
    rw [digits_plain true .zero (by simpa using hne) hi]
    simp [Numeral.zero]
  rcases eq_or_ne i [] with rfl | hi'
  · rw [List.nil_append, mantissa_fraction hf', digits_plain true .zero hf' hf]
    simp [Numeral.zero]
  · rw [mantissa_both hi' (no_point_of_plain hi) hf']
    show (((digits 10 true .zero i).bind _).map _) = _
    rw [digits_plain true .zero hi' hi, Option.bind_some, digits_plain true _ hf' hf]
    simp [Numeral.zero, Nat.ofDigitChars, List.foldl_append]

/-! ## Rational texts -/

theorem intSetString_plain (hs : s ≠ []) (h : ∀ c ∈ s, c.isDigit = true) :
    intSetString s = some (Nat.ofDigitChars 10 s 0 : ℤ) := by
  unfold intSetString
  split
  · exact absurd (h '-' List.mem_cons_self) (by decide)
  · exact absurd (h '+' List.mem_cons_self) (by decide)
  · rw [digits_plain false .zero hs h]
    simp [Numeral.zero]

/-- A positive integer is written without a sign, or with a plus. -/
theorem plain_of_intSetString {z : ℤ} (h : intSetString s = some z) (hz : 0 < z) (hplus : '+' ∉ s) :
    s ≠ [] ∧ ∀ c ∈ s, c.isDigit = true := by
  unfold intSetString at h
  split at h
  · obtain ⟨n, -, rfl⟩ := Option.map_eq_some_iff.1 h
    omega
  · exact absurd List.mem_cons_self hplus
  · obtain ⟨n, hn, -⟩ := Option.map_eq_some_iff.1 h
    exact plain_of_digits hn

theorem no_slash_of_digits (hb : 0 < b) (h : digits b true n s = some n') : '/' ∉ s := by
  intro hc
  rcases (digits_grammar hb h).1.chars hc with hd | hd
  · exact (digit_ne hd).2.2.1 rfl
  · exact absurd hd (by decide)

theorem mem_dropSep (hc : c ∈ s) (hne : c ≠ '_') : c ∈ dropSep s := by
  unfold dropSep
  split
  · exact (List.mem_cons.1 hc).resolve_left hne
  · exact hc

theorem no_slash_of_natLiteral {a : ℕ} (h : natLiteral s = some a) : '/' ∉ s := by
  intro hc
  unfold natLiteral at h
  split at h
  · rename_i c cs
    have htail : '/' ∈ c :: cs := (List.mem_cons.1 hc).resolve_left (by decide)
    split at h
    · rename_i b hprefix
      obtain ⟨n, hn, -⟩ := Option.map_eq_some_iff.1 h
      have hb : 0 < b := by
        have := prefixBase_eq hprefix
        omega
      have hne : '/' ≠ c := by
        rintro rfl
        exact absurd hprefix (by simp [prefixBase])
      exact no_slash_of_digits hb hn (mem_dropSep ((List.mem_cons.1 htail).resolve_left hne) (by decide))
    · obtain ⟨n, hn, -⟩ := Option.map_eq_some_iff.1 h
      exact no_slash_of_digits (by decide) hn (mem_dropSep htail (by decide))
  · obtain ⟨n, hn, -⟩ := Option.map_eq_some_iff.1 h
    exact no_slash_of_digits (by decide) hn hc

theorem literal_nonneg {v : ℚ} (h : literal b prefixed s = some v) : 0 ≤ v := by
  unfold literal at h
  obtain ⟨m, -, h⟩ := Option.bind_eq_some_iff.1 h
  obtain ⟨⟨base, x⟩, -, h⟩ := Option.bind_eq_some_iff.1 h
  cases h
  positivity

theorem ratLiteral_nonneg {v : ℚ} (h : ratLiteral s = some v) : 0 ≤ v := by
  unfold ratLiteral at h
  split at h
  · split at h <;> exact literal_nonneg h
  · exact literal_nonneg h

theorem ratSetString_of_no_sign (hslash : '/' ∉ s) (hminus : s.head? ≠ some '-') (hplus : s.head? ≠ some '+') :
    ratSetString s = ratLiteral s := by
  unfold ratSetString
  rw [if_neg hslash]
  split
  · exact absurd rfl hminus
  · exact absurd rfl hplus
  · rfl

/-- Two slashes are never read, and neither is a positive number behind a minus. -/
theorem ratLiteral_of_ratSetString {v : ℚ} (h : ratSetString s = some v) (hv : 0 < v) (hplus : '+' ∉ s)
    (hslash : s.count '/' ≠ 1) : '/' ∉ s ∧ ratLiteral s = some v := by
  unfold ratSetString at h
  split at h
  · rename_i hmem
    obtain ⟨a, -, h⟩ := Option.bind_eq_some_iff.1 h
    obtain ⟨d, hd, -⟩ := Option.bind_eq_some_iff.1 h
    obtain ⟨i, f, rfl, hi⟩ := List.eq_append_cons_of_mem hmem
    rw [(cut_append hi).2] at hd
    have hf : '/' ∉ f := no_slash_of_natLiteral hd
    rw [List.count_append, List.count_cons_self, List.count_eq_zero.2 hi, List.count_eq_zero.2 hf] at hslash
    exact absurd rfl hslash
  · rename_i hmem
    refine ⟨hmem, ?_⟩
    split at h
    · obtain ⟨w, hw, rfl⟩ := Option.map_eq_some_iff.1 h
      have := ratLiteral_nonneg hw
      linarith
    · exact absurd List.mem_cons_self hplus
    · exact h

end Seev.Lib
