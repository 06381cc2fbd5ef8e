import Mathlib.Data.Fintype.Basic
import Mathlib.Algebra.Order.Ring.Int

/-!
# Decimal texts of 64-bit integers

Texts are lists of characters.

* `parseInt_formatInt`: a formatted integer parses to itself.
* `formatInt_chars`: a formatted integer is made of digits and a sign.
-/

namespace Seev.Lib

/-! ## Integers -/

/-- The decimal text, with a sign for a negative number only. -/
def formatInt (t : Int64) : List Char :=
  if t.toInt < 0 then '-' :: Nat.toDigits 10 t.toInt.natAbs else Nat.toDigits 10 t.toInt.natAbs

/-- One or more digits. -/
def parseDigits (s : List Char) : Option ℕ :=
  if s = [] ∨ s.any (fun c => !c.isDigit) then none else some (Nat.ofDigitChars 10 s 0)

/-- A number in the range of the type. -/
def inRange (n : ℤ) : Option Int64 :=
  if -2 ^ 63 ≤ n ∧ n < 2 ^ 63 then some (Int64.ofInt n) else none

/-- Digits behind an optional sign. -/
def parseInt : List Char → Option Int64
  | '-' :: rest => (parseDigits rest).bind fun n => inRange (-n)
  | '+' :: rest => (parseDigits rest).bind fun n => inRange n
  | s => (parseDigits s).bind fun n => inRange n

theorem isDigit_toDigits {n : ℕ} {c : Char} (h : c ∈ Nat.toDigits 10 n) : c.isDigit = true :=
  Nat.isDigit_of_mem_toDigits (by decide) (by decide) h

theorem parseDigits_toDigits (n : ℕ) : parseDigits (Nat.toDigits 10 n) = some n := by
  have hne : Nat.toDigits 10 n ≠ [] := Nat.toDigits_ne_nil
  have hall : (Nat.toDigits 10 n).any (fun c => !c.isDigit) = false := by
    rw [List.any_eq_false]
    intro c hc
    simp [isDigit_toDigits hc]
  rw [parseDigits, if_neg (by simp [hne, hall]), Nat.ofDigitChars_toDigits (by decide) (by decide)]

theorem inRange_toInt (t : Int64) : inRange t.toInt = some t := by
  have hlo := t.le_toInt
  have hhi := t.toInt_lt
  rw [inRange, if_pos ⟨hlo, hhi⟩, Int64.ofInt_toInt]

/-- A digit is none of the signs. -/
theorem parseInt_toDigits (n : ℕ) : parseInt (Nat.toDigits 10 n) = inRange n := by
  have hne : Nat.toDigits 10 n ≠ [] := Nat.toDigits_ne_nil
  have hdigits : ∀ c ∈ Nat.toDigits 10 n, c.isDigit = true := fun c hc => isDigit_toDigits hc
  have hparse := parseDigits_toDigits n
  generalize Nat.toDigits 10 n = s at *
  unfold parseInt
  split
  · exact absurd (hdigits '-' List.mem_cons_self) (by decide)
  · exact absurd (hdigits '+' List.mem_cons_self) (by decide)
  · rw [hparse, Option.bind_some]

/-- **Round trip.** -/
theorem parseInt_formatInt (t : Int64) : parseInt (formatInt t) = some t := by
  unfold formatInt
  split
  · rename_i hneg
    have habs : -((t.toInt.natAbs : ℕ) : ℤ) = t.toInt := by omega
    show (parseDigits (Nat.toDigits 10 t.toInt.natAbs)).bind _ = _
    rw [parseDigits_toDigits, Option.bind_some, habs, inRange_toInt]
  · rename_i hpos
    have habs : ((t.toInt.natAbs : ℕ) : ℤ) = t.toInt := by omega
    rw [parseInt_toDigits, habs, inRange_toInt]

theorem formatInt_chars {t : Int64} {c : Char} (h : c ∈ formatInt t) : c.isDigit = true ∨ c = '-' := by
  unfold formatInt at h
  split at h
  · rcases List.mem_cons.1 h with rfl | h
    · exact .inr rfl
    · exact .inl (isDigit_toDigits h)
  · exact .inl (isDigit_toDigits h)

/-! ## Bytes -/

abbrev Bytes := List UInt8

end Seev.Lib
