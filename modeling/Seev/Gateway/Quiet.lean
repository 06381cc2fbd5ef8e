import Seev.Lib.Zone

/-!
# Quiet hours

`NextAllowedTime`: whether the local clock is inside the quiet hours of a user, and when they end. Instants are in
microseconds, the times of the settings in minutes of the day.

* `parse`: a text of the layout `15:04`.
* `quietEnd`: local midnight, as `time.Date` finds it, and so much later.
-/

namespace Seev.Gateway.Quiet

open Lib (Zone)

/-- The errors of `NextAllowedTime`. -/
inductive QuietError where
  /-- `invalid timezone %q` -/
  | timezone (name : String)
  /-- `invalid quiet-hour time %q` -/
  | time (value : String)
  deriving DecidableEq, Repr

/-- A decimal digit. -/
def digit (c : Char) : Option ℕ := if c.isDigit then some (c.toNat - 48) else none

/-- A time of the day. -/
def hourMinute (hour minute : ℕ) : Option ℕ := if hour < 24 ∧ minute < 60 then some (60 * hour + minute) else none

/-- `time.Parse("15:04", value)`, in minutes: the hour has one digit or two, the minute two. -/
def parse (value : String) : Option ℕ :=
  match value.toList with
  | [h, ':', m, n] => do hourMinute (← digit h) (10 * (← digit m) + (← digit n))
  | [g, h, ':', m, n] => do hourMinute (10 * (← digit g) + (← digit h)) (10 * (← digit m) + (← digit n))
  | _ => none

/-- Equal times are quiet all day. -/
def inQuiet (startAt endAt minute : ℤ) : Bool :=
  if startAt = endAt then true
  else if startAt < endAt then startAt ≤ minute ∧ minute < endAt
  else startAt ≤ minute ∨ minute < endAt

/-- The minute of the local day. -/
def minute (z : Zone) (t : ℤ) : ℤ := z.clock t / 60

/-- The end of the quiet hours that `now` is in. -/
def quietEnd (z : Zone) (now startAt endAt : ℤ) : ℤ :=
  let base := z.date (z.day now) 0
  if startAt < endAt then base + endAt * 60000000
  -- a range over midnight ends on this date after midnight, and otherwise on the next
  else if minute z now < endAt then base + endAt * 60000000
  else base + (86400000000 + endAt * 60000000)

/-- `NextAllowedTime`: now, or the end of the quiet hours. -/
def nextAllowedTime (zones : String → Option Zone) (now : ℤ) (timezone : String) (enabled : Bool)
    (start stop : Option String) : Except QuietError ℤ :=
  if !enabled ∨ start.getD "" = "" ∨ stop.getD "" = "" then .ok now
  else
    match zones timezone with
    | none => .error (.timezone timezone)
    | some z =>
      match parse (start.getD ""), parse (stop.getD "") with
      | none, _ => .error (.time (start.getD ""))
      | _, none => .error (.time (stop.getD ""))
      | some startAt, some endAt =>
        if !inQuiet startAt endAt (minute z now) then .ok now else .ok (quietEnd z now startAt endAt)

end Seev.Gateway.Quiet
