import Mathlib.Data.Int.Notation
import Mathlib.Order.Basic

/-!
# The Gregorian calendar

Days are counted from 1970-01-01, in `ℤ`, and months from January of the year 0: month
`12 * year + k` is the `k`-th (from zero) of its year.

* `monthStart`, `monthOf`: the day a month starts on, and the month of a day; `monthOf_spec` and
  `monthOf_eq` say that it is the only month the day lies in.
* `monthStart_add_cycle`, `monthOf_add_cycle`: after 4800 months, which are 146097 days and whole weeks,
  the calendar repeats.
-/

namespace Seev.Lib

/-! ## Months -/

/-- The day that month `m` begins on, where month `12 * year + k` is the `k`-th (from zero)
of its year. Years are counted from March, so that a leap day ends its year. -/
def monthStart (m : ℤ) : ℤ :=
  let year := (m - 2) / 12
  let month := (m - 2) % 12
  365 * year + year / 4 - year / 100 + year / 400 + (153 * month + 2) / 5 - 719468

/-- The month of a day: months have 146097 / 4800 days on average, and the month found by
this average is at most one off. -/
def monthOf (d : ℤ) : ℤ :=
  let m := 4800 * (d + 719468) / 146097 + 2
  if d < monthStart m then m - 1 else if monthStart (m + 1) ≤ d then m + 1 else m

/-- The day of the month, from one. -/
def dayOfMonth (d : ℤ) : ℤ := d - monthStart (monthOf d) + 1

theorem monthStart_eq {year month : ℤ} (h0 : 0 ≤ month) (h12 : month < 12) :
    monthStart (12 * year + month + 2) =
      365 * year + year / 4 - year / 100 + year / 400 + (153 * month + 2) / 5 - 719468 := by
  have hyear : (12 * year + month + 2 - 2) / 12 = year := by omega
  have hmonth : (12 * year + month + 2 - 2) % 12 = month := by omega
  simp only [monthStart, hyear, hmonth]

/-- Months have 28 to 31 days. -/
theorem monthStart_succ (m : ℤ) :
    monthStart m + 28 ≤ monthStart (m + 1) ∧ monthStart (m + 1) ≤ monthStart m + 31 := by
  obtain ⟨year, month, rfl, h0, h12⟩ : ∃ year month : ℤ, m = 12 * year + month + 2 ∧ 0 ≤ month ∧ month < 12 :=
    ⟨(m - 2) / 12, (m - 2) % 12, by omega, by omega, by omega⟩
  rw [monthStart_eq h0 h12]
  rcases (show month + 1 < 12 ∨ month = 11 by omega) with hin | rfl
  · rw [show 12 * year + month + 2 + 1 = 12 * year + (month + 1) + 2 by omega, monthStart_eq (by omega) hin]
    omega
  · -- the year ends here, with or without a leap day
    rw [show 12 * year + 11 + 2 + 1 = 12 * (year + 1) + 0 + 2 by omega, monthStart_eq (by omega) (by omega)]
    omega

theorem monthOf_spec (d : ℤ) : monthStart (monthOf d) ≤ d ∧ d < monthStart (monthOf d + 1) := by
  have hbelow : ∀ m, m = 4800 * (d + 719468) / 146097 + 2 → monthStart (m - 1) ≤ d := by
    intro m hm
    unfold monthStart
    dsimp only
    omega
  have habove : ∀ m, m = 4800 * (d + 719468) / 146097 + 2 → d < monthStart (m + 2) := by
    intro m hm
    unfold monthStart
    dsimp only
    omega
  unfold monthOf
  dsimp only
  generalize hm : 4800 * (d + 719468) / 146097 + 2 = m
  have h1 := hbelow m hm.symm
  have h2 := habove m hm.symm
  split
  · rw [Int.sub_add_cancel]
    exact ⟨h1, ‹_›⟩
  · split
    · rw [Int.add_assoc]
      exact ⟨‹_›, h2⟩
    · omega

theorem monthStart_lt {m m' : ℤ} (h : m < m') : monthStart m < monthStart m' := by
  obtain ⟨n, rfl⟩ : ∃ n : ℕ, m' = m + n + 1 := ⟨(m' - m - 1).toNat, by omega⟩
  clear h
  induction n with
  | zero =>
    have := monthStart_succ m
    rw [Int.natCast_zero, Int.add_zero]
    omega
  | succ n ih =>
    have := monthStart_succ (m + n + 1)
    rw [show m + (n + 1 : ℕ) + 1 = m + n + 1 + 1 by omega]
    omega

/-- The month of a day is the only one that the day lies in. -/
theorem monthOf_eq {d m : ℤ} (h : monthStart m ≤ d) (h' : d < monthStart (m + 1)) : monthOf d = m := by
  have hd := monthOf_spec d
  rcases Int.lt_trichotomy (monthOf d) m with hlt | heq | hgt
  · rcases (show monthOf d + 1 = m ∨ monthOf d + 1 < m by omega) with rfl | hlt
    · omega
    · have := monthStart_lt hlt
      omega
  · exact heq
  · rcases (show m + 1 = monthOf d ∨ m + 1 < monthOf d by omega) with heq | hlt
    · rw [← heq] at hd
      omega
    · have := monthStart_lt hlt
      omega

/-! ## Weeks and the cycle -/

/-- The day of the week, from zero for Sunday. -/
def weekday (d : ℤ) : ℤ := (d + 4) % 7

theorem monthStart_add_cycle (m : ℤ) : monthStart (m + 4800) = monthStart m + 146097 := by
  obtain ⟨year, month, rfl, h0, h12⟩ : ∃ year month : ℤ, m = 12 * year + month + 2 ∧ 0 ≤ month ∧ month < 12 :=
    ⟨(m - 2) / 12, (m - 2) % 12, by omega, by omega, by omega⟩
  rw [show 12 * year + month + 2 + 4800 = 12 * (year + 400) + month + 2 by omega, monthStart_eq h0 h12,
    monthStart_eq h0 h12]
  omega

theorem monthOf_add_cycle (d : ℤ) : monthOf (d + 146097) = monthOf d + 4800 := by
  obtain ⟨hlo, hhi⟩ := monthOf_spec d
  refine monthOf_eq ?_ ?_
  · rw [monthStart_add_cycle]
    omega
  · rw [show monthOf d + 4800 + 1 = monthOf d + 1 + 4800 by omega, monthStart_add_cycle]
    omega

/-- The day of the month that a day of a month has. -/
theorem dayOfMonth_eq {d m : ℤ} (h : monthStart m ≤ d) (h' : d < monthStart (m + 1)) :
    dayOfMonth d = d - monthStart m + 1 := by
  rw [dayOfMonth, monthOf_eq h h']

end Seev.Lib
