import Mathlib.Data.Int.LeastGreatest
import Seev.Scheduling.Proof.Days

/-!
# The next run of a cron expression

The loop of `Next` on the local clock, counted in minutes. Jumps over months, days and minutes land on
local boundaries; the jump over an hour lands on a boundary of the absolute clock, which is one of
the local clock only in a zone of whole hours.

* `next_lt`: what `Next` returns is later, in any zone.
* `Cron.Round`: what one round of the loop does.
* `search_least`: the loop finds the least minute of the expression unless an hour's jump skips it.
* `search_skips`: it does not find it otherwise.
* `next_least`, `next_local_iff`: what `Next` returns in a zone of whole hours, and how it depends on the zone.

Everything rests on two facts. A round goes no further than the least minute (`Round.le`), and the rounds are
few: after the first day, each day that is not the last costs one round.
-/

namespace Seev.Scheduling

open Lib

variable {c : Cron} {o n m n₀ τ : ℤ}

/-! ## In any zone -/

theorem jump_lt {offset t t' : ℤ} (h : c.jump offset t = some t') : t < t' := by
  have hmonth := (monthOf_spec ((t + offset * second) / day)).2
  rw [Cron.jump] at h
  simp only [date_tomorrow, date_nextMonth] at h
  unfold truncate day hour minute second at *
  split_ifs at h
  all_goals
    cases h
    omega

/-- What `Next` returns is later. -/
theorem next_lt {offset t u : ℤ} (h : c.next offset t = some u) : t < u := by
  refine (search_sound (I := fun s => t < s) (fun s s' hs hjump => Int.lt_trans hs (jump_lt hjump)) ?_ h).2
  unfold truncate minute second
  omega

/-! ## The loop on the local clock -/

/-- Whether the month and the day are those of the expression. -/
def Cron.due (c : Cron) (d : ℤ) : Bool := c.month.matches (monthOfYear d) && c.dayOK d

theorem fires_iff :
    c.Fires n ↔ c.due (n / 1440) = true ∧ n / 60 % 24 ∈ c.hours.values ∧ n % 60 ∈ c.minutes.values := by
  rw [Cron.due, Bool.and_eq_true, dayOK_iff, CronField.matches, decide_eq_true_eq]
  exact ⟨fun ⟨h1, h2, h3, h4⟩ => ⟨⟨h1, h2⟩, h3, h4⟩, fun ⟨⟨h1, h2⟩, h3, h4⟩ => ⟨h1, h2, h3, h4⟩⟩

/-- `Cron.jump` in minutes of the local clock, in a zone that is `o` minutes ahead. -/
def Cron.jumpLocal (c : Cron) (o n : ℤ) : Option ℤ :=
  let d := n / 1440
  if !c.month.matches (monthOfYear d) then some (monthStart (monthOf d + 1) * 1440)
  else if !c.dayOK d then some ((d + 1) * 1440)
  else if !c.hours.matches (n / 60 % 24) then some (((n - o) / 60 + 1) * 60 + o)
  else if !c.minutes.matches (n % 60) then some (n + 1)
  else none

/-- The instant of a minute on the local clock. -/
def instant (o n : ℤ) : ℤ := (n - o) * minute

theorem jump_instant (c : Cron) (o n : ℤ) :
    c.jump (60 * o) (instant o n) = (c.jumpLocal o n).map (instant o) := by
  have hday : (instant o n + 60 * o * second) / day = n / 1440 := by
    unfold instant day hour minute second
    omega
  have hhour : (instant o n + 60 * o * second) / hour % 24 = n / 60 % 24 := by
    unfold instant hour minute second
    omega
  have hminute : (instant o n + 60 * o * second) / minute % 60 = n % 60 := by
    unfold instant minute second
    omega
  have hdate : ∀ d, d * day - 60 * o * second = instant o (d * 1440) := by
    intro d
    unfold instant day hour minute second
    omega
  have hnext : truncate (instant o n) hour + hour = instant o (((n - o) / 60 + 1) * 60 + o) := by
    unfold truncate instant hour minute second
    omega
  have hsucc : instant o n + minute = instant o (n + 1) := by
    unfold instant minute second
    omega
  simp only [Cron.jump, Cron.jumpLocal, hday, hhour, hminute, date_tomorrow, date_nextMonth, Int.add_sub_cancel,
    hdate, hnext, hsucc, apply_ite (Option.map (instant o)), Option.map_some, Option.map_none]

/-- The first whole minute after an instant, on the local clock. -/
def firstMinute (t o : ℤ) : ℤ := t / minute + 1 + o

theorem next_eq_search (c : Cron) (o t : ℤ) :
    c.next (60 * o) t = (search (c.jumpLocal o) maxNextIter (firstMinute t o)).map (instant o) := by
  have hstart : truncate (t + minute) minute = instant o (firstMinute t o) := by
    unfold truncate instant firstMinute minute second
    omega
  rw [Cron.next, hstart]
  exact search_map (jump_instant c o) _ _

/-! ## One round -/

/-- What a round at minute `n` does that goes on at `m`. -/
inductive Cron.Round (c : Cron) (o n m : ℤ) : Prop
  /-- some days that are not due are passed over -/
  | days (d : ℤ) (hm : m = d * 1440) (hlt : n / 1440 < d)
      (hnot : ∀ d', n / 1440 ≤ d' → d' < d → c.due d' = false)
  /-- the hour is none of the expression: on to the next hour of the absolute clock -/
  | hour (hdue : c.due (n / 1440) = true) (hhour : n / 60 % 24 ∉ c.hours.values)
      (hm : m = ((n - o) / 60 + 1) * 60 + o)
  /-- the minute is none of the expression -/
  | minute (hdue : c.due (n / 1440) = true) (hhour : n / 60 % 24 ∈ c.hours.values)
      (hminute : n % 60 ∉ c.minutes.values) (hm : m = n + 1)

theorem jumpLocal_eq_none : c.jumpLocal o n = none ↔ c.Fires n := by
  rw [fires_iff, Cron.jumpLocal, Cron.due]
  cases hmonth : c.month.matches (monthOfYear (n / 1440)) with
  | false => simp
  | true =>
    cases hday : c.dayOK (n / 1440) with
    | false => simp
    | true =>
      simp only [CronField.matches]
      split_ifs <;> simp_all

theorem jumpLocal_eq_some (h : c.jumpLocal o n = some m) : c.Round o n m := by
  rw [Cron.jumpLocal] at h
  cases hmonth : c.month.matches (monthOfYear (n / 1440)) with
  | false =>
    have hspec := monthOf_spec (n / 1440)
    obtain rfl : monthStart (monthOf (n / 1440) + 1) * 1440 = m := by simpa [hmonth] using h
    refine .days _ rfl hspec.2 fun d' hle hlt => ?_
    -- all the days up to the next month are in this one
    have hsame : monthOf d' = monthOf (n / 1440) := monthOf_eq (by omega) hlt
    rw [Cron.due, monthOfYear, hsame, ← monthOfYear, hmonth, Bool.false_and]
  | true =>
    cases hday : c.dayOK (n / 1440) with
    | false =>
      obtain rfl : (n / 1440 + 1) * 1440 = m := by simpa [hmonth, hday] using h
      refine .days _ rfl (by omega) fun d' hle hlt => ?_
      obtain rfl : d' = n / 1440 := by omega
      rw [Cron.due, hday, Bool.and_false]
    | true =>
      have hdue : c.due (n / 1440) = true := by rw [Cron.due, hmonth, hday, Bool.and_self]
      cases hhour : c.hours.matches (n / 60 % 24) with
      | false =>
        obtain rfl : ((n - o) / 60 + 1) * 60 + o = m := by simpa [hmonth, hday, hhour] using h
        exact .hour hdue (by simpa [CronField.matches] using hhour) rfl
      | true =>
        cases hminute : c.minutes.matches (n % 60) with
        | false =>
          obtain rfl : n + 1 = m := by simpa [hmonth, hday, hhour, hminute] using h
          exact .minute hdue (by simpa [CronField.matches] using hhour)
            (by simpa [CronField.matches] using hminute) rfl
        | true => simp [hmonth, hday, hhour, hminute] at h

theorem Cron.Round.lt (h : c.Round o n m) : n < m := by
  cases h with
  | days | hour | minute => omega

/-- A jump over the hour before the minute `τ` lands later than `τ` in its hour: the zone's minutes are more
than those of `τ`, the search starts before this hour, and the hour before it is on a day that is due and is
no hour of the expression. -/
def Cron.Skipped (c : Cron) (o n₀ τ : ℤ) : Prop :=
  τ % 60 < o % 60 ∧ n₀ / 60 ≠ τ / 60 ∧ c.due ((τ / 60 * 60 - 1) / 1440) = true ∧
    (τ / 60 * 60 - 1) / 60 % 24 ∉ c.hours.values

instance (c : Cron) (o n₀ τ : ℤ) : Decidable (c.Skipped o n₀ τ) := inferInstanceAs (Decidable (_ ∧ _ ∧ _ ∧ _))

/-- A round goes no further than a minute of the expression that no jump skips. -/
theorem Cron.Round.le (h : c.Round o n m) (hn : n₀ ≤ n) (hnτ : n < τ) (hτ : c.Fires τ)
    (hskip : ¬ c.Skipped o n₀ τ) : m ≤ τ := by
  obtain ⟨hdueτ, hhourτ, -⟩ := fires_iff.1 hτ
  cases h with
  | days d hm hlt hnot =>
    by_contra hgt
    have := hnot (τ / 1440) (by omega) (by omega)
    rw [hdueτ] at this
    cases this
  | hour hdue hhour hm =>
    have hlater : n / 60 < τ / 60 := by
      by_contra hle
      have hsame : n / 60 = τ / 60 := by omega
      exact hhour (hsame ▸ hhourτ)
    by_contra hgt
    -- then the jump is from the hour before into the hour of the minute
    have hbefore : (τ / 60 * 60 - 1) / 60 = n / 60 := by omega
    have hday : (τ / 60 * 60 - 1) / 1440 = n / 1440 := by omega
    exact hskip ⟨by omega, by omega, hday ▸ hdue, hbefore ▸ hhour⟩
  | minute hdue hhour hminute hm => omega

/-! ## The search -/

/-- The minutes of the expression from `n₀` on. -/
def Cron.After (c : Cron) (n₀ : ℤ) : Set ℤ := {n | n₀ ≤ n ∧ c.Fires n}

/-- The next day that is due holds the least minute. -/
theorem least_le_due (hτ : IsLeast (c.After n₀) τ) {d : ℤ} (hd : n₀ / 1440 < d) (hdue : c.due d = true) :
    τ / 1440 ≤ d := by
  obtain ⟨-, hhour, hminute⟩ := fires_iff.1 hτ.1.2
  have hfires : c.Fires (d * 1440 + τ % 1440) := by
    refine fires_iff.2 ⟨?_, ?_, ?_⟩
    · rwa [show (d * 1440 + τ % 1440) / 1440 = d by omega]
    · rwa [show (d * 1440 + τ % 1440) / 60 % 24 = τ / 60 % 24 by omega]
    · rwa [show (d * 1440 + τ % 1440) % 60 = τ % 60 by omega]
  have hle : τ ≤ d * 1440 + τ % 1440 := hτ.2 ⟨by omega, hfires⟩
  omega

theorem least_lt_cycle (hτ : IsLeast (c.After n₀) τ) : τ < n₀ + 146097 * 1440 := by
  by_contra hge
  have hfires : c.Fires (τ - 146097 * 1440) := by
    rw [← fires_add_cycle, Int.sub_add_cancel]
    exact hτ.1.2
  have hle : τ ≤ τ - 146097 * 1440 := hτ.2 ⟨by omega, hfires⟩
  omega

/-- The rounds left: the minutes on the last day, and before it one for each day, and on a day that is due
those to its end. -/
def Cron.rounds (c : Cron) (τ n : ℤ) : ℕ :=
  if n / 1440 = τ / 1440 then (τ - n).toNat
  else (τ / 1440 - n / 1440 + 1440 + (if c.due (n / 1440) then 1440 - n % 1440 else 0)).toNat

theorem Cron.Round.rounds_lt (h : c.Round o n m) (hτ : IsLeast (c.After n₀) τ) (hn : n₀ ≤ n) (hm : m ≤ τ) :
    c.rounds τ m < c.rounds τ n := by
  have hlt := h.lt
  unfold Cron.rounds
  by_cases hlast : m / 1440 = τ / 1440
  · rw [if_pos hlast]
    split_ifs <;> omega
  · have hbefore : m / 1440 < τ / 1440 := by omega
    rw [if_neg hlast, if_neg (show n / 1440 ≠ τ / 1440 by omega)]
    by_cases hsame : m / 1440 = n / 1440
    · -- only on a day that is due does a round stay on its day
      have hdue : c.due (n / 1440) = true := by
        cases h with
        | days d hm hlt hnot => omega
        | hour hdue hhour hm => exact hdue
        | minute hdue hhour hminute hm => exact hdue
      simp only [hsame, hdue, if_true]
      omega
    · have hnot : c.due (m / 1440) = false := by
        by_contra hdue
        have := least_le_due hτ (show n₀ / 1440 < m / 1440 by omega) (Bool.not_eq_false _ ▸ hdue)
        omega
      simp only [hnot, Bool.false_eq_true, if_false]
      split_ifs <;> omega

/-- **The loop finds the least minute of the expression, unless a jump skips it.** -/
theorem search_least (hτ : IsLeast (c.After n₀) τ) (hskip : ¬ c.Skipped o n₀ τ) :
    search (c.jumpLocal o) maxNextIter n₀ = some τ := by
  have hcycle := least_lt_cycle hτ
  refine search_finds (I := fun n => n₀ ≤ n ∧ n ≤ τ) (M := c.rounds τ) (jumpLocal_eq_none.2 hτ.1.2) ?_
    ⟨Int.le_refl _, hτ.1.1⟩ ?_
  · rintro n ⟨hn, hnτ⟩ hne
    cases hjump : c.jumpLocal o n with
    | none =>
      have hle : τ ≤ n := hτ.2 ⟨hn, jumpLocal_eq_none.1 hjump⟩
      omega
    | some m =>
      have hround := jumpLocal_eq_some hjump
      have hm := hround.le hn (by omega) hτ.1.2 hskip
      have hlt := hround.lt
      exact ⟨m, rfl, ⟨by omega, hm⟩, hround.rounds_lt hτ hn hm⟩
  · unfold Cron.rounds maxNextIter
    split_ifs <;> omega

/-- What the loop returns is a minute of the expression, from the start on. -/
theorem search_after (h : search (c.jumpLocal o) maxNextIter n₀ = some m) : m ∈ c.After n₀ := by
  obtain ⟨hnone, hle⟩ := search_sound (I := fun n => n₀ ≤ n)
    (fun n n' hn hjump => by have := (jumpLocal_eq_some hjump).lt; omega) (Int.le_refl n₀) h
  exact ⟨hle, jumpLocal_eq_none.1 hnone⟩

/-- **The loop does not find a minute that a jump skips.** -/
theorem search_skips (hτ : IsLeast (c.After n₀) τ) (hskip : c.Skipped o n₀ τ) :
    search (c.jumpLocal o) maxNextIter n₀ ≠ some τ := by
  obtain ⟨hoff, hstart, hdueb, hhourb⟩ := hskip
  have hle := hτ.1.1
  intro h
  -- every round stays before the hour of the minute or goes past the minute
  have hround : ∀ n n', (n < τ / 60 * 60 ∨ τ < n) → c.jumpLocal o n = some n' → n' < τ / 60 * 60 ∨ τ < n' := by
    intro n n' hn hjump
    have hlt := (jumpLocal_eq_some hjump).lt
    rcases hn with hn | hn
    · cases jumpLocal_eq_some hjump with
      | days d hm hlt hnot =>
        by_contra hin
        have := hnot ((τ / 60 * 60 - 1) / 1440) (by omega) (by omega)
        rw [hdueb] at this
        cases this
      | hour hdue hhour hm => omega
      | minute hdue hhour hminute hm =>
        by_contra hin
        have hlast : n = τ / 60 * 60 - 1 := by omega
        exact hhourb (hlast ▸ hhour)
    · exact .inr (by omega)
  have := (search_sound hround (.inl (by omega)) h).2
  omega

theorem search_none (h : c.After n₀ = ∅) : search (c.jumpLocal o) maxNextIter n₀ = none := by
  cases hsearch : search (c.jumpLocal o) maxNextIter n₀ with
  | none => rfl
  | some m =>
    have := search_after hsearch
    rw [h] at this
    cases this

theorem exists_least (h : (c.After n₀).Nonempty) : ∃ τ, IsLeast (c.After n₀) τ := by
  obtain ⟨τ, hτ, hleast⟩ := Int.exists_least_of_bdd (P := (· ∈ c.After n₀)) ⟨n₀, fun _ hz => hz.1⟩ h
  exact ⟨τ, hτ, hleast⟩

/-! ## `Next` -/

/-- The whole minutes after `t` at which the local clock shows a minute of the expression. -/
def Cron.Runs (c : Cron) (offset t : ℤ) : Set ℤ :=
  {u | t < u ∧ minute ∣ u ∧ c.Fires ((u + offset * second) / minute)}

theorem instant_mem_runs (c : Cron) (o t n : ℤ) :
    instant o n ∈ c.Runs (60 * o) t ↔ n ∈ c.After (firstMinute t o) := by
  have hlocal : (instant o n + 60 * o * second) / minute = n := by
    unfold instant minute second
    omega
  have hafter : t < instant o n ↔ firstMinute t o ≤ n := by
    unfold instant firstMinute minute second
    omega
  rw [Cron.Runs, Set.mem_ofPred_eq, hlocal, hafter]
  exact ⟨fun h => ⟨h.1, h.2.2⟩, fun h => ⟨h.1, ⟨n - o, Int.mul_comm _ _⟩, h.2⟩⟩

theorem exists_instant {u : ℤ} (h : minute ∣ u) (o : ℤ) : ∃ n, instant o n = u := by
  obtain ⟨k, rfl⟩ := h
  exact ⟨k + o, by rw [instant, Int.add_sub_cancel, Int.mul_comm]⟩

theorem isLeast_runs {t : ℤ} (h : IsLeast (c.After (firstMinute t o)) τ) :
    IsLeast (c.Runs (60 * o) t) (instant o τ) := by
  refine ⟨(instant_mem_runs c o t τ).2 h.1, fun u hu => ?_⟩
  obtain ⟨n, rfl⟩ := exists_instant hu.2.1 o
  have hle : τ ≤ n := h.2 ((instant_mem_runs c o t n).1 hu)
  unfold instant minute second
  omega

/-- **In a zone of whole hours, `Next` returns the least whole minute after `t` that matches, and an error if
there is none.** -/
theorem next_least : ∀ (spec : List Char) (c : Cron), parseCron spec = .ok c → ∀ t h : ℤ,
    ((c.Runs (3600 * h) t).Nonempty → ∃ u, IsLeast (c.Runs (3600 * h) t) u ∧ c.next (3600 * h) t = some u) ∧
      (¬ (c.Runs (3600 * h) t).Nonempty → c.next (3600 * h) t = none) := by
  intro spec c _ t h
  rw [show 3600 * h = 60 * (60 * h) by omega, next_eq_search]
  constructor
  · rintro ⟨u, hu⟩
    obtain ⟨n, rfl⟩ := exists_instant hu.2.1 (60 * h)
    obtain ⟨τ, hτ⟩ := exists_least ⟨n, (instant_mem_runs c (60 * h) t n).1 hu⟩
    have hskip : ¬ c.Skipped (60 * h) (firstMinute t (60 * h)) τ := fun hskip => by
      have := hskip.1
      omega
    refine ⟨_, isLeast_runs hτ, ?_⟩
    rw [search_least hτ hskip]
    rfl
  · intro hnone
    rw [search_none, Option.map_none]
    rw [Set.eq_empty_iff_forall_notMem]
    exact fun n hn => hnone ⟨_, (instant_mem_runs c (60 * h) t n).2 hn⟩

/-- **`Next` depends on the local clock only, exactly where no hour's jump skips the first minute that
matches.** -/
theorem next_local_iff : ∀ (spec : List Char) (c : Cron), parseCron spec = .ok c → ∀ t o : ℤ,
    c.next (60 * o) t = (c.next 0 (t + o * minute)).map (· - o * minute) ↔
      ∀ τ, IsLeast (c.After (firstMinute t o)) τ → ¬ c.Skipped o (firstMinute t o) τ := by
  intro spec c _ t o
  have hstart : firstMinute (t + o * minute) 0 = firstMinute t o := by
    unfold firstMinute minute second
    omega
  have hshift : ∀ n, instant 0 n - o * minute = instant o n := by
    intro n
    unfold instant minute second
    omega
  have hutc := next_eq_search c 0 (t + o * minute)
  rw [Int.mul_zero, hstart] at hutc
  rw [next_eq_search, hutc]
  constructor
  · intro h τ hτ hskip
    have hfound : ¬ c.Skipped 0 (firstMinute t o) τ := fun hskip => by
      have := hskip.1
      omega
    rw [search_least hτ hfound, Option.map_some, Option.map_some, hshift] at h
    obtain ⟨m, hm, heq⟩ := Option.map_eq_some_iff.1 h
    obtain rfl : m = τ := by
      unfold instant minute second at heq
      omega
    exact search_skips hτ hskip hm
  · intro h
    by_cases hnone : c.After (firstMinute t o) = ∅
    · rw [search_none hnone, search_none hnone]
      rfl
    · obtain ⟨τ, hτ⟩ := exists_least (Set.nonempty_iff_ne_empty.2 hnone)
      have hfound : ¬ c.Skipped 0 (firstMinute t o) τ := fun hskip => by
        have := hskip.1
        omega
      rw [search_least hτ (h τ hτ), search_least hτ hfound, Option.map_some, Option.map_some, Option.map_some,
        hshift]

namespace Daily

/-- Every day at nine. -/
def spec : List Char := "0 9 * * *".toList

def cron : Cron where
  minutes := { values := [0], wildcard := false }
  hours := { values := [9], wildcard := false }
  dom := { wildcard := true, values := [], lastOffsets := [], nearestW := [], hasLW := false }
  month := { values := interval 1 12, wildcard := true }
  dow := { wildcard := true, values := [], lastDow := [], nthDow := [] }

theorem parse : parseCron spec = .ok cron := by decide +kernel

/-- Nine o'clock on 2026-01-05, on the local clock. -/
def nine : ℤ := 20458 * 1440 + 540

theorem isLeast : IsLeast (cron.After (nine - 30)) nine := by
  refine ⟨⟨by decide, fires_iff.2 (by decide +kernel)⟩, fun n hn => ?_⟩
  obtain ⟨-, hhour, -⟩ := fires_iff.1 hn.2
  have hle := hn.1
  have hhour : n / 60 % 24 = 9 := by simpa [cron] using hhour
  unfold nine at *
  omega

end Daily

theorem next_least_daily : parseCron Daily.spec = .ok Daily.cron ∧
    ∃ u, IsLeast (Daily.cron.Runs (3600 * 7) 0) u ∧ Daily.cron.next (3600 * 7) 0 = some u :=
  ⟨Daily.parse, (next_least _ _ Daily.parse 0 7).1
    ⟨120 * minute, by decide, ⟨120, Int.mul_comm _ _⟩, fires_iff.2 (by decide +kernel)⟩⟩

theorem next_local_iff_daily : parseCron Daily.spec = .ok Daily.cron ∧
    (Daily.cron.next (60 * 420) 0 = (Daily.cron.next 0 (0 + 420 * minute)).map (· - 420 * minute) ↔
      ∀ τ, IsLeast (Daily.cron.After (firstMinute 0 420)) τ → ¬ Daily.cron.Skipped 420 (firstMinute 0 420) τ) :=
  ⟨Daily.parse, next_local_iff _ _ Daily.parse 0 420⟩

/-- At 08:29, half an hour off the absolute clock's hours: in UTC the next run is at nine, in the zone it is
not. -/
theorem half_hour_zone_skips :
    parseCron Daily.spec = .ok Daily.cron ∧
    Daily.cron.next 0 ((Daily.nine - 31) * minute) = some (Daily.nine * minute) ∧
    Daily.cron.next (60 * 330) ((Daily.nine - 31) * minute - 330 * minute) ≠
      some (Daily.nine * minute - 330 * minute) := by
  refine ⟨Daily.parse, by decide +kernel, ?_⟩
  rw [next_eq_search, show firstMinute ((Daily.nine - 31) * minute - 330 * minute) 330 =
    Daily.nine - 30 by decide]
  intro h
  obtain ⟨m, hm, heq⟩ := Option.map_eq_some_iff.1 h
  obtain rfl : m = Daily.nine := by
    unfold instant minute second at heq
    omega
  exact search_skips Daily.isLeast (by decide +kernel) hm

end Seev.Scheduling
