import Seev.Scheduling.Cron

/-!
# The days of a cron expression

What the rules for days mean, in terms of the calendar, and that the code computes it.

* `IsNearest`, `IsLast`: the working day nearest to a day of the month, and the last day of the month that
  has its weekday.
* `Cron.OnDay`, `Cron.Fires`: the days and the minutes of an expression.
* `dayOK_iff`: the day check of `Next` decides `OnDay`.
* `fires_add_cycle`: the minutes of an expression repeat after 400 years.
-/

namespace Seev.Scheduling

open Lib

/-! ## The month of a day -/

/-- The number of days in the month of a day. -/
def daysInMonth (d : ℤ) : ℤ := monthStart (monthOf d + 1) - monthStart (monthOf d)

theorem daysInMonth_bounds (d : ℤ) : 28 ≤ daysInMonth d ∧ daysInMonth d ≤ 31 := by
  have := monthStart_succ (monthOf d)
  unfold daysInMonth
  omega

theorem dayOfMonth_bounds (d : ℤ) : 1 ≤ dayOfMonth d ∧ dayOfMonth d ≤ daysInMonth d := by
  have := monthOf_spec d
  unfold dayOfMonth daysInMonth
  omega

theorem date_month (d n : ℤ) : date (yearOf d) (monthOfYear d) n = monthStart (monthOf d) + n - 1 := by
  have hmonth : 12 * yearOf d + monthOfYear d - 1 = monthOf d := by
    unfold yearOf monthOfYear
    omega
  rw [date, hmonth]

theorem date_tomorrow (d : ℤ) : date (yearOf d) (monthOfYear d) (dayOfMonth d + 1) = d + 1 := by
  rw [date_month, dayOfMonth]
  omega

theorem date_nextMonth (d n : ℤ) :
    date (yearOf d) (monthOfYear d + 1) n = monthStart (monthOf d + 1) + n - 1 := by
  have hmonth : 12 * yearOf d + (monthOfYear d + 1) - 1 = monthOf d + 1 := by
    unfold yearOf monthOfYear
    omega
  rw [date, hmonth]

theorem lastDayOfMonth_eq (d : ℤ) : lastDayOfMonth (yearOf d) (monthOfYear d) = daysInMonth d := by
  have hbounds := daysInMonth_bounds d
  unfold daysInMonth at hbounds
  rw [lastDayOfMonth, date_nextMonth, dayOfMonth_eq (m := monthOf d) (by omega) (by omega), daysInMonth]
  omega

theorem monthOf_day {d x : ℤ} (h : 1 ≤ x) (h' : x ≤ daysInMonth d) :
    monthOf (monthStart (monthOf d) + x - 1) = monthOf d := by
  unfold daysInMonth at h'
  exact monthOf_eq (by omega) (by omega)

/-! ## The meaning of the rules -/

/-- Monday to Friday. -/
def Working (d : ℤ) : Prop := 1 ≤ weekday d ∧ weekday d ≤ 5

/-- Day `n` of the month of `d`, or the end of the month that is nearer to it. -/
def target (d n : ℤ) : ℤ := monthStart (monthOf d) + max 1 (min n (daysInMonth d)) - 1

/-- No working day of the month is nearer to its day `n`. -/
structure IsNearest (d n : ℤ) : Prop where
  working : Working d
  nearest : ∀ d', monthOf d' = monthOf d → Working d' → (d - target d n).natAbs ≤ (d' - target d n).natAbs

/-- No later day of the month has this weekday. -/
def IsLast (d : ℤ) : Prop := ∀ d', d < d' → monthOf d' = monthOf d → weekday d' ≠ weekday d

/-- Which of the days with its weekday this is, in its month, from one. -/
def occurrence (d : ℤ) : ℤ := (dayOfMonth d - 1) / 7 + 1

def DomField.Selects (f : DomField) (d : ℤ) : Prop :=
  dayOfMonth d ∈ f.values ∨ (∃ n ∈ f.lastOffsets, dayOfMonth d = daysInMonth d - n) ∨
    (∃ n ∈ f.nearestW, IsNearest d n) ∨ (f.hasLW = true ∧ IsNearest d (daysInMonth d))

def DowField.Selects (f : DowField) (d : ℤ) : Prop :=
  weekday d ∈ f.values ∨ (weekday d ∈ f.lastDow ∧ IsLast d) ∨ (weekday d, occurrence d) ∈ f.nthDow

/-- Both fields select days, or one that is not a wildcard, or all days are selected. -/
def Cron.OnDay (c : Cron) (d : ℤ) : Prop :=
  match c.dom.wildcard, c.dow.wildcard with
  | false, false => c.dom.Selects d ∨ c.dow.Selects d
  | false, true => c.dom.Selects d
  | true, false => c.dow.Selects d
  | true, true => True

/-- The minutes of an expression, counted from 1970-01-01 on the local clock. -/
structure Cron.Fires (c : Cron) (n : ℤ) : Prop where
  month : monthOfYear (n / 1440) ∈ c.month.values
  day : c.OnDay (n / 1440)
  hour : n / 60 % 24 ∈ c.hours.values
  minute : n % 60 ∈ c.minutes.values

/-! ## The rules as the code has them -/

theorem clamp_eq {x n : ℤ} (h : 1 ≤ n) : clamp x n = max 1 (min x n) := by
  unfold clamp
  dsimp only
  split <;> split <;> omega

/-- The day of `nearestWeekday`, as a day of the calendar. -/
def nearestDay (d n : ℤ) : ℤ :=
  monthStart (monthOf d) + nearestWeekday (yearOf d) (monthOfYear d) n - 1

/-- Saturday, with the Friday in the month or not; Sunday, with the Monday in it or not; a working day. -/
theorem nearestWeekday_cases {d n x r : ℤ} (hx : max 1 (min n (daysInMonth d)) = x)
    (hr : nearestWeekday (yearOf d) (monthOfYear d) n = r) :
    (weekday (target d n) = 6 ∧ (1 < x ∧ r = x - 1 ∨ x = 1 ∧ r = 3)) ∨
      (weekday (target d n) = 0 ∧ (x < daysInMonth d ∧ r = x + 1 ∨ x = daysInMonth d ∧ r = x - 2)) ∨
      (weekday (target d n) ≠ 6 ∧ weekday (target d n) ≠ 0 ∧ r = x) := by
  have hbounds := daysInMonth_bounds d
  rw [target, hx]
  rw [nearestWeekday, lastDayOfMonth_eq, clamp_eq (by omega), date_month, hx] at hr
  split_ifs at hr <;> omega

/-- The day is a working day of the month, and every other one is farther away. -/
theorem nearestDay_spec (d n : ℤ) :
    (1 ≤ nearestWeekday (yearOf d) (monthOfYear d) n ∧
      nearestWeekday (yearOf d) (monthOfYear d) n ≤ daysInMonth d) ∧
    Working (nearestDay d n) ∧
    ∀ d', monthOf d' = monthOf d → Working d' → d' ≠ nearestDay d n →
      (nearestDay d n - target d n).natAbs < (d' - target d n).natAbs := by
  have hbounds := daysInMonth_bounds d
  have hmonth : ∀ d', monthOf d' = monthOf d →
      monthStart (monthOf d) ≤ d' ∧ d' < monthStart (monthOf d) + daysInMonth d := by
    intro d' heq
    have := monthOf_spec d'
    rw [heq] at this
    unfold daysInMonth
    omega
  have hx : 1 ≤ max 1 (min n (daysInMonth d)) ∧ max 1 (min n (daysInMonth d)) ≤ daysInMonth d := by omega
  have hr := nearestWeekday_cases (d := d) (n := n) rfl rfl
  simp only [Working, nearestDay, target, weekday] at hr ⊢
  generalize nearestWeekday (yearOf d) (monthOfYear d) n = r at hr ⊢
  generalize max 1 (min n (daysInMonth d)) = x at hr hx ⊢
  generalize daysInMonth d = l at hbounds hmonth hr hx ⊢
  generalize monthStart (monthOf d) = s at hmonth hr ⊢
  refine ⟨by omega, by omega, ?_⟩
  intro d' heq hworking hne
  have := hmonth d' heq
  omega

theorem dayOfMonth_nearestWeekday_iff (d n : ℤ) :
    dayOfMonth d = nearestWeekday (yearOf d) (monthOfYear d) n ↔ IsNearest d n := by
  obtain ⟨⟨hlo, hhi⟩, hworking, hunique⟩ := nearestDay_spec d n
  have hday : dayOfMonth d = nearestWeekday (yearOf d) (monthOfYear d) n ↔ d = nearestDay d n := by
    unfold dayOfMonth nearestDay
    omega
  rw [hday]
  constructor
  · intro heq
    refine ⟨heq ▸ hworking, fun d' hmonth hd' => ?_⟩
    by_cases hne : d' = nearestDay d n
    · rw [hne, ← heq]
    · have := hunique d' hmonth hd' hne
      rw [← heq] at this
      omega
  · intro h
    by_contra hne
    have hfar := hunique d rfl h.working hne
    have hnear := h.nearest (nearestDay d n) (monthOf_day hlo hhi) hworking
    omega

theorem isLast_iff (d : ℤ) : IsLast d ↔ daysInMonth d < dayOfMonth d + 7 := by
  have hspec := monthOf_spec d
  constructor
  · intro h
    by_contra hroom
    -- a week later is still in the month
    refine h (d + 7) (by omega) (monthOf_eq ?_ ?_) ?_
    · omega
    · unfold dayOfMonth daysInMonth at hroom
      omega
    · unfold weekday
      omega
  · intro h d' hlt hmonth
    have := monthOf_spec d'
    rw [hmonth] at this
    unfold dayOfMonth daysInMonth at h
    unfold weekday
    omega

theorem weekday_bounds (d : ℤ) : 0 ≤ weekday d ∧ weekday d ≤ 6 := by
  unfold weekday
  omega

theorem dayOfMonth_lastWeekday_iff (d : ℤ) :
    dayOfMonth d = lastWeekdayInMonth (yearOf d) (monthOfYear d) (weekday d) ↔ IsLast d := by
  have hdays := daysInMonth_bounds d
  have hday := dayOfMonth_bounds d
  rw [isLast_iff, lastWeekdayInMonth, lastDayOfMonth_eq, date_month]
  rw [Int.tmod_eq_emod_of_nonneg (by have := weekday_bounds d; unfold weekday at *; omega)]
  unfold dayOfMonth at *
  unfold weekday
  omega

theorem dayOfMonth_nthWeekday_iff (d n : ℤ) :
    (0 < nthWeekdayInMonth (yearOf d) (monthOfYear d) (weekday d) n ∧
      dayOfMonth d = nthWeekdayInMonth (yearOf d) (monthOfYear d) (weekday d) n) ↔ occurrence d = n := by
  have hdays := daysInMonth_bounds d
  have hday := dayOfMonth_bounds d
  rw [nthWeekdayInMonth, lastDayOfMonth_eq, date_month]
  dsimp only
  rw [Int.tmod_eq_emod_of_nonneg (by have := weekday_bounds d; unfold weekday at *; omega)]
  unfold occurrence
  unfold dayOfMonth at *
  unfold weekday
  split_ifs <;> omega

theorem DomField.matches_iff {f : DomField} (h : f.wildcard = false) (d : ℤ) :
    f.matches d = true ↔ f.Selects d := by
  rw [DomField.matches, lastDayOfMonth_eq, DomField.Selects]
  simp [h, dayOfMonth_nearestWeekday_iff]

theorem DowField.matches_iff {f : DowField} (h : f.wildcard = false) (d : ℤ) :
    f.matches d = true ↔ f.Selects d := by
  have hlast : (∃ n ∈ f.lastDow, weekday d = n ∧ dayOfMonth d = lastWeekdayInMonth (yearOf d) (monthOfYear d) n) ↔
      weekday d ∈ f.lastDow ∧ IsLast d := by
    constructor
    · rintro ⟨n, hn, rfl, hday⟩
      exact ⟨hn, (dayOfMonth_lastWeekday_iff d).1 hday⟩
    · rintro ⟨hmem, hlast⟩
      exact ⟨_, hmem, rfl, (dayOfMonth_lastWeekday_iff d).2 hlast⟩
  have hnth : (∃ e ∈ f.nthDow, weekday d = e.1 ∧ 0 < nthWeekdayInMonth (yearOf d) (monthOfYear d) e.1 e.2 ∧
      dayOfMonth d = nthWeekdayInMonth (yearOf d) (monthOfYear d) e.1 e.2) ↔
      (weekday d, occurrence d) ∈ f.nthDow := by
    constructor
    · rintro ⟨⟨dow, n⟩, he, rfl, hday⟩
      rwa [(dayOfMonth_nthWeekday_iff d n).1 hday]
    · intro hmem
      exact ⟨_, hmem, rfl, (dayOfMonth_nthWeekday_iff d _).2 rfl⟩
  simp only [DowField.matches, DowField.Selects, h, ← hlast, ← hnth]
  simp

/-- **The day check of `Next` decides the rule for days.** -/
theorem dayOK_iff (c : Cron) (d : ℤ) : c.dayOK d = true ↔ c.OnDay d := by
  unfold Cron.dayOK Cron.OnDay DomField.isRestricted DowField.isRestricted
  cases hdom : c.dom.wildcard with
  | false =>
    cases hdow : c.dow.wildcard with
    | false => simp [DomField.matches_iff hdom, DowField.matches_iff hdow]
    | true => simp [DomField.matches_iff hdom]
  | true =>
    cases hdow : c.dow.wildcard with
    | false => simp [DowField.matches_iff hdow]
    | true => simp

/-! ## The cycle of the calendar -/

theorem monthOfYear_add_cycle (d : ℤ) : monthOfYear (d + 146097) = monthOfYear d := by
  unfold monthOfYear
  rw [monthOf_add_cycle]
  omega

theorem weekday_add_cycle (d : ℤ) : weekday (d + 146097) = weekday d := by
  unfold weekday
  omega

theorem dayOfMonth_add_cycle (d : ℤ) : dayOfMonth (d + 146097) = dayOfMonth d := by
  unfold dayOfMonth
  rw [monthOf_add_cycle, monthStart_add_cycle]
  omega

theorem daysInMonth_add_cycle (d : ℤ) : daysInMonth (d + 146097) = daysInMonth d := by
  unfold daysInMonth
  rw [monthOf_add_cycle, show monthOf d + 4800 + 1 = monthOf d + 1 + 4800 by omega, monthStart_add_cycle,
    monthStart_add_cycle]
  omega

theorem working_add_cycle (d : ℤ) : Working (d + 146097) ↔ Working d := by
  rw [Working, Working, weekday_add_cycle]

theorem target_add_cycle (d n : ℤ) : target (d + 146097) n = target d n + 146097 := by
  unfold target
  rw [monthOf_add_cycle, monthStart_add_cycle, daysInMonth_add_cycle]
  omega

theorem isNearest_add_cycle (d n : ℤ) : IsNearest (d + 146097) n ↔ IsNearest d n := by
  constructor
  · intro h
    refine ⟨(working_add_cycle d).1 h.working, fun d' hmonth hworking => ?_⟩
    have hnear := h.nearest (d' + 146097) (by rw [monthOf_add_cycle, monthOf_add_cycle, hmonth])
      ((working_add_cycle d').2 hworking)
    rw [target_add_cycle] at hnear
    omega
  · intro h
    refine ⟨(working_add_cycle d).2 h.working, fun d' hmonth hworking => ?_⟩
    obtain ⟨e, rfl⟩ : ∃ e, d' = e + 146097 := ⟨d' - 146097, by omega⟩
    rw [monthOf_add_cycle, monthOf_add_cycle] at hmonth
    have hnear := h.nearest e (by omega) ((working_add_cycle e).1 hworking)
    rw [target_add_cycle]
    omega

theorem onDay_add_cycle (c : Cron) (d : ℤ) : c.OnDay (d + 146097) ↔ c.OnDay d := by
  simp only [Cron.OnDay, DomField.Selects, DowField.Selects, isLast_iff, occurrence, isNearest_add_cycle,
    dayOfMonth_add_cycle, daysInMonth_add_cycle, weekday_add_cycle]

/-- **The minutes of an expression repeat after 400 years.** -/
theorem fires_add_cycle (c : Cron) (n : ℤ) : c.Fires (n + 146097 * 1440) ↔ c.Fires n := by
  have hday : (n + 146097 * 1440) / 1440 = n / 1440 + 146097 := by omega
  have hhour : (n + 146097 * 1440) / 60 % 24 = n / 60 % 24 := by omega
  have hminute : (n + 146097 * 1440) % 60 = n % 60 := by omega
  constructor
  · rintro ⟨h1, h2, h3, h4⟩
    rw [hday, monthOfYear_add_cycle] at h1
    rw [hday, onDay_add_cycle] at h2
    exact ⟨h1, h2, hhour ▸ h3, hminute ▸ h4⟩
  · rintro ⟨h1, h2, h3, h4⟩
    refine ⟨?_, ?_, hhour ▸ h3, hminute ▸ h4⟩
    · rwa [hday, monthOfYear_add_cycle]
    · rwa [hday, onDay_add_cycle]

end Seev.Scheduling
