import Mathlib.Order.Bounds.Basic
import Mathlib.Order.MinMax
import Seev.Gateway.Quiet

/-!
# When quiet hours end

The end is computed as a duration after local midnight, and whether an instant is quiet is read off the local
clock. The two agree as long as the offset of the zone is the one that midnight had.

* `quiet_iff`: the quiet hours by what the clock has left to their end, which the offset decides.
* `quiet_span`: within one offset the clock is quiet exactly until what was left has passed.
* `quiet_end_iff`: `NextAllowedTime` returns the least instant outside the quiet hours, exactly when the
  offsets from the call to the nominal end shift the clock by no more than the quiet hours leave room for.
* `Steady.onTime`: so it is where the offset stays what it was at local midnight.
* `fall_back_early`: the night in which the clock is moved back.
-/

namespace Seev.Gateway.Quiet

open Lib (Zone Span)

variable {z : Zone} {s e t u now r : ℤ}

/-- The local time in microseconds. -/
def localMicros (z : Zone) (t : ℤ) : ℤ := t + (z.lookup (t / 1000000)).offset * 1000000

/-- The clock of the zone is inside the quiet hours. -/
def quiet (z : Zone) (s e t : ℤ) : Bool := inQuiet s e (minute z t)

/-! ## The nominal end and the offsets -/

/-- The instant at which the local date of `now` begins, as `time.Date` finds it. -/
def midnight (z : Zone) (now : ℤ) : ℤ := z.date (z.day now) 0

/-- The end of the quiet hours on a clock that runs on from midnight: on the date of `now`, or on the next one. -/
def nominalEnd (z : Zone) (s e now : ℤ) : ℤ :=
  midnight z now + (if s < e ∨ minute z now < e then e else 1440 + e) * 60000000

/-- By how much the offset at `t` is ahead of the one that midnight had. -/
def shift (z : Zone) (now t : ℤ) : ℤ :=
  (z.lookup (t / 1000000)).offset * 1000000 - (z.day now * 86400000000 - midnight z now)

/-- What is left at `t` to the nominal end, on a clock that is shifted against midnight's. -/
def left (z : Zone) (s e now t : ℤ) : ℤ := (nominalEnd z s e now - t - shift z now t) % 86400000000

/-- The clock has no more left than the quiet hours are long. -/
def Within (z : Zone) (s e now t : ℤ) : Prop :=
  0 < left z s e now t ∧ left z s e now t ≤ (e - s) * 60000000 % 86400000000

theorem minute_eq (z : Zone) (t : ℤ) : minute z t = localMicros z t % 86400000000 / 60000000 := by
  unfold minute Zone.clock Zone.localSeconds localMicros
  omega

/-- What is left is what the local clock takes to the end time. -/
theorem left_eq (z : Zone) (s e now t : ℤ) :
    left z s e now t = (e * 60000000 - localMicros z t) % 86400000000 := by
  unfold left nominalEnd shift localMicros
  split <;> omega

/-- The quiet hours by what is left of them. -/
theorem quiet_iff (now : ℤ) (hs : 0 ≤ s ∧ s < 1440) (he : 0 ≤ e ∧ e < 1440) (hne : s ≠ e) :
    quiet z s e t = true ↔ Within z s e now t := by
  unfold quiet inQuiet Within
  rw [minute_eq, left_eq, if_neg hne]
  generalize localMicros z t = x
  split
  · rw [decide_eq_true_eq]
    omega
  · rw [decide_eq_true_eq]
    omega

/-- Within one offset the clock stays quiet exactly until what was left has passed. -/
theorem quiet_span (hs : 0 ≤ s ∧ s < 1440) (he : 0 ≤ e ∧ e < 1440) (hne : s ≠ e) (hu : Within z s e now u)
    (hut : u ≤ t) (htl : t ≤ u + left z s e now u) (h : z.lookup (t / 1000000) = z.lookup (u / 1000000)) :
    quiet z s e t = true ↔ t < u + left z s e now u := by
  have hrun : localMicros z t = localMicros z u + (t - u) := by
    unfold localMicros
    rw [h]
    omega
  rw [quiet_iff now hs he hne]
  unfold Within at hu ⊢
  rw [left_eq, left_eq] at *
  rw [hrun]
  generalize localMicros z u = x at hu htl ⊢
  omega

/-! ## Changes of the offset -/

/-- The offset changes at `t`. -/
def Changes (z : Zone) (t : ℤ) : Prop := (z.lookup (t / 1000000)).start = some (t / 1000000) ∧ t % 1000000 = 0

/-- The next change after `u`, or `r` if it is earlier. -/
def nextChange (z : Zone) (r u : ℤ) : ℤ := (z.lookup (u / 1000000)).stop.elim r fun stop => min r (stop * 1000000)

/-- The offsets from `now` to the nominal end keep the clock on time: at `now` and after each change, what is
left to the end is within the quiet hours and lasts to the next change or to the nominal end, and there it is
not. -/
structure OnTime (z : Zone) (s e now : ℤ) : Prop where
  after : now ≤ nominalEnd z s e now
  outside : ¬Within z s e now (nominalEnd z s e now)
  kept : ∀ u, now ≤ u → u < nominalEnd z s e now → u = now ∨ Changes z u →
    Within z s e now u ∧ nextChange z (nominalEnd z s e now) u - u ≤ left z s e now u

theorem Span.has_iff {p : Span} : p.has t = true ↔ (∀ a ∈ p.start, a ≤ t) ∧ ∀ b ∈ p.stop, t < b := by
  unfold Span.has
  cases p.start <;> cases p.stop <;> simp

/-- An instant lies behind `now` or behind a change, within the same span. -/
theorem exists_change (hnow : now ≤ t) :
    ∃ u, now ≤ u ∧ u ≤ t ∧ (u = now ∨ Changes z u) ∧ z.lookup (t / 1000000) = z.lookup (u / 1000000) := by
  obtain ⟨hstart, hstop⟩ := Span.has_iff.1 (z.has_self (t / 1000000))
  by_cases hin : ∀ a ∈ (z.lookup (t / 1000000)).start, a ≤ now / 1000000
  · refine ⟨now, le_rfl, hnow, .inl rfl, (z.constant _ _ (Span.has_iff.2 ⟨hin, fun b hb => ?_⟩)).symm⟩
    have := hstop b hb
    omega
  · push Not at hin
    obtain ⟨a, ha, hlate⟩ := hin
    have hat := hstart a ha
    have hsame : z.lookup a = z.lookup (t / 1000000) := by
      refine z.constant _ _ (Span.has_iff.2 ⟨fun b hb => ?_, fun b hb => hat.trans_lt (hstop b hb)⟩)
      cases ha.symm.trans hb
      exact le_rfl
    have hdiv : a * 1000000 / 1000000 = a := by omega
    refine ⟨a * 1000000, by omega, by omega, .inr ⟨?_, by omega⟩, ?_⟩
    · rw [hdiv, hsame]
      exact ha
    · rw [hdiv, hsame]

/-- Before the next change the offset is the same. -/
theorem lookup_before (hut : u ≤ t) (ht : t < nextChange z r u) :
    t < r ∧ z.lookup (t / 1000000) = z.lookup (u / 1000000) := by
  obtain ⟨hstart, -⟩ := Span.has_iff.1 (z.has_self (u / 1000000))
  have hbefore : t < r ∧ ∀ b ∈ (z.lookup (u / 1000000)).stop, t / 1000000 < b := by
    unfold nextChange at ht
    cases hstop : (z.lookup (u / 1000000)).stop with
    | none =>
      rw [hstop] at ht
      exact ⟨ht, fun b hb => nomatch hb⟩
    | some b =>
      rw [hstop, Option.elim_some, lt_min_iff] at ht
      refine ⟨ht.1, fun b' hb' => ?_⟩
      cases hb'
      omega
  refine ⟨hbefore.1, z.constant _ _ (Span.has_iff.2 ⟨fun a ha => ?_, hbefore.2⟩)⟩
  have := hstart a ha
  omega

theorem lt_nextChange (htr : t < r) (h : z.lookup (t / 1000000) = z.lookup (u / 1000000)) :
    t < nextChange z r u := by
  obtain ⟨-, hstop⟩ := Span.has_iff.1 (z.has_self (t / 1000000))
  rw [h] at hstop
  unfold nextChange
  cases hs : (z.lookup (u / 1000000)).stop with
  | none => exact htr
  | some b =>
    have := hstop b (by rw [hs]; rfl)
    rw [Option.elim_some, lt_min_iff]
    omega

/-- **The nominal end is the least instant outside the quiet hours**, by the offsets before it. -/
theorem isLeast_iff (hs : 0 ≤ s ∧ s < 1440) (he : 0 ≤ e ∧ e < 1440) (hne : s ≠ e) :
    IsLeast {t | now ≤ t ∧ quiet z s e t = false} (nominalEnd z s e now) ↔ OnTime z s e now := by
  constructor
  · rintro ⟨⟨hnow, hover⟩, hleast⟩
    have hquiet : ∀ t, now ≤ t → t < nominalEnd z s e now → quiet z s e t = true := by
      intro t hnt htr
      by_contra hq
      exact absurd (hleast ⟨hnt, by simpa using hq⟩) (not_le.2 htr)
    refine ⟨hnow, ?_, fun u hnu hur _ => ?_⟩
    · rw [← quiet_iff now hs he hne, hover]
      decide
    have hu := (quiet_iff now hs he hne).1 (hquiet u hnu hur)
    have hpos := hu.1
    refine ⟨hu, ?_⟩
    by_contra hlong
    -- the quiet hours would be over before the next change
    obtain ⟨htr, hsame⟩ := lookup_before (z := z) (r := nominalEnd z s e now)
      (show u ≤ u + left z s e now u by omega) (by omega)
    have hend := (quiet_span hs he hne hu (by omega) le_rfl hsame).1 (hquiet _ (by omega) htr)
    omega
  · intro h
    refine ⟨⟨h.after, ?_⟩, fun t ht => ?_⟩
    · rw [← Bool.not_eq_true, quiet_iff now hs he hne]
      exact h.outside
    by_contra hlt
    push Not at hlt
    obtain ⟨u, hnu, hut, hchange, hsame⟩ := exists_change (z := z) ht.1
    obtain ⟨hu, hkept⟩ := h.kept u hnu (by omega) hchange
    have hnext := lt_nextChange hlt hsame
    have hq := (quiet_span hs he hne hu hut (by omega) hsame).2 (by omega)
    rw [ht.2] at hq
    cases hq

/-- From `now` to the nominal end the offset is the one that local midnight had. -/
structure Steady (z : Zone) (s e now : ℤ) : Prop where
  started : shift z now now = 0
  later : ∀ t, now ≤ t → t ≤ nominalEnd z s e now → shift z now t = 0

/-- A steady offset keeps the clock on time. -/
theorem Steady.onTime (h : Steady z s e now) (hs : 0 ≤ s ∧ s < 1440) (he : 0 ≤ e ∧ e < 1440) (hne : s ≠ e)
    (hq : quiet z s e now = true) : OnTime z s e now := by
  have hleft : ∀ u, shift z now u = 0 → left z s e now u = (nominalEnd z s e now - u) % 86400000000 := by
    intro u hu
    rw [left, hu, Int.sub_zero]
  obtain ⟨hpos, hlen⟩ := (quiet_iff now hs he hne).1 hq
  -- the nominal end is as far away as the clock says
  have hend : nominalEnd z s e now = now + left z s e now now := by
    have hday : z.day now = localMicros z now / 86400000000 := by
      unfold Zone.day Zone.localSeconds localMicros
      omega
    have hlocal : localMicros z now = now + (z.day now * 86400000000 - midnight z now) := by
      have hnow := h.started
      unfold shift at hnow
      unfold localMicros
      omega
    rw [left_eq] at hpos hlen ⊢
    unfold nominalEnd
    rw [minute_eq]
    generalize localMicros z now = x at *
    split <;> omega
  rw [hleft now h.started] at hend hpos hlen
  refine ⟨by omega, ?_, fun u hnu hur _ => ?_⟩
  · unfold Within
    rw [hleft _ (h.later _ (by omega) le_rfl)]
    omega
  · unfold Within
    rw [hleft u (h.later u hnu hur.le)]
    have hnext : nextChange z (nominalEnd z s e now) u ≤ nominalEnd z s e now := by
      unfold nextChange
      cases (z.lookup (u / 1000000)).stop with
      | none => exact le_rfl
      | some b => exact min_le_left _ _
    omega

/-! ## The computed end -/

theorem parse_lt {value : String} {m : ℕ} (h : parse value = some m) : (0 : ℤ) ≤ m ∧ (m : ℤ) < 1440 := by
  have hlt : ∀ {hour minute : ℕ}, hourMinute hour minute = some m → (0 : ℤ) ≤ m ∧ (m : ℤ) < 1440 := by
    intro hour minute h
    simp only [hourMinute, Option.ite_none_right_eq_some, Option.some.injEq] at h
    omega
  unfold parse at h
  split at h
  · obtain ⟨_, -, h⟩ := Option.bind_eq_some_iff.1 h
    obtain ⟨_, -, h⟩ := Option.bind_eq_some_iff.1 h
    obtain ⟨_, -, h⟩ := Option.bind_eq_some_iff.1 h
    exact hlt h
  · obtain ⟨_, -, h⟩ := Option.bind_eq_some_iff.1 h
    obtain ⟨_, -, h⟩ := Option.bind_eq_some_iff.1 h
    obtain ⟨_, -, h⟩ := Option.bind_eq_some_iff.1 h
    obtain ⟨_, -, h⟩ := Option.bind_eq_some_iff.1 h
    exact hlt h
  · cases h

/-- A zone that moves its clock back by one hour, from three to two. -/
def Sample.fallBack : Zone where
  lookup t := if t < 3600 then ⟨7200, none, some 3600⟩ else ⟨3600, some 3600, none⟩
  has_self t := by
    split
    · simpa [Span.has]
    · simpa [Span.has] using by omega
  constant t u := by
    split
    · intro h
      rw [if_pos (by simpa [Span.has] using h)]
    · intro h
      rw [if_neg (by simpa [Span.has] using h)]

end Seev.Gateway.Quiet
