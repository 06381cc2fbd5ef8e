import Mathlib.Data.Int.Basic

/-!
# Time zones

A zone is a step function from instants to offsets. Its spans are what the runtime keeps of a zone file: the
instants of a zone are in seconds, those that are read in it in microseconds.

* `Zone`: an offset for every instant, constant on the span that it gives.
* `Zone.date`: how the runtime finds the instant of a local date and clock.
-/

namespace Seev.Lib

/-- A span of instants with one offset from UTC, without bounds where there is no transition. -/
structure Span where
  offset : ℤ
  start : Option ℤ
  stop : Option ℤ
  deriving DecidableEq, Repr

/-- The instant lies in the span, whose end is not part of it. -/
def Span.has (s : Span) (t : ℤ) : Bool := s.start.all (· ≤ t) && s.stop.all (t < ·)

/-- A time zone: the offset is a step function of the instant. -/
structure Zone where
  lookup : ℤ → Span
  has_self : ∀ t, (lookup t).has t = true
  constant : ∀ t u, (lookup t).has u = true → lookup u = lookup t

/-- A zone that never changes its offset. -/
def Zone.fixed (offset : ℤ) : Zone := ⟨fun _ => ⟨offset, none, none⟩, fun _ => rfl, fun _ _ _ => rfl⟩

variable (z : Zone)

/-- The second that the local clock has counted since the first day. -/
def Zone.localSeconds (t : ℤ) : ℤ := t / 1000000 + (z.lookup (t / 1000000)).offset

/-- The number of the local day. -/
def Zone.day (t : ℤ) : ℤ := z.localSeconds t / 86400

/-- The second of the local day. -/
def Zone.clock (t : ℤ) : ℤ := z.localSeconds t % 86400

/-- `time.Date`: the offset at the local time is taken for the one at the instant, unless the instant that
this gives lies in another span. -/
def Zone.date (day clock : ℤ) : ℤ :=
  let unix := day * 86400 + clock
  let span := z.lookup unix
  let utc := unix - span.offset
  let offset := if span.has utc then span.offset else (z.lookup utc).offset
  (unix - if span.offset = 0 then 0 else offset) * 1000000

end Seev.Lib
