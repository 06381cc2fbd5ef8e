import Seev.Ledger.Basic
import Seev.Lib.Calendar
import Seev.Lib.Decimal
import Seev.Lib.Search

/-!
# Cron expressions

`ParseCron` and `Cron.Next`. An instant is a number of nanoseconds since the Unix epoch. The zero time that
`Truncate` counts from is a whole number of days before it. A zone has a fixed offset, in seconds. Texts
are lists of characters.

* `DomField`, `DowField`: the rules for days.
* `parseCron`: the five fields, with their extensions.
* `Cron.jump`: one round of the loop in `Next`; none where all fields match.
* `Cron.next`: the loop, at most `maxNextIter` rounds.
-/

namespace Seev.Scheduling

open Lib

/-! ## `time` -/

/-- Times are in nanoseconds, as `time.Duration` is. -/
def second : ℤ := 10 ^ 9

/-- `time.Minute`. -/
def minute : ℤ := 60 * second

/-- `time.Hour`. -/
def hour : ℤ := 60 * minute

/-- The length of a day. -/
def day : ℤ := 24 * hour

/-- `t.Truncate(d)` -/
def truncate (t d : ℤ) : ℤ := t - t % d

/-- The day of `time.Date(year, month, day, …)`, which normalizes the month and the day. -/
def date (year month day : ℤ) : ℤ := monthStart (12 * year + month - 1) + day - 1

/-- `t.Year()`, `t.Month()` and `t.Day()` of a day. -/
def yearOf (d : ℤ) : ℤ := monthOf d / 12

/-- The month, from 1 to 12. -/
def monthOfYear (d : ℤ) : ℤ := monthOf d % 12 + 1

/-! ## Calendar helpers -/

/-- The day before the first of the next month. -/
def lastDayOfMonth (year month : ℤ) : ℤ := dayOfMonth (date year (month + 1) 0)

/-- The target day within the month. -/
def clamp (targetDay lastDay : ℤ) : ℤ :=
  let targetDay := if targetDay < 1 then 1 else targetDay
  if lastDay < targetDay then lastDay else targetDay

/-- `nW`: the weekday nearest to a day, in the same month. -/
def nearestWeekday (year month targetDay : ℤ) : ℤ :=
  let lastDay := lastDayOfMonth year month
  let targetDay := clamp targetDay lastDay
  let wd := weekday (date year month targetDay)
  if wd = 6 then
    if 1 < targetDay then targetDay - 1 else if targetDay + 2 ≤ lastDay then targetDay + 2 else targetDay
  else if wd = 0 then
    if targetDay < lastDay then targetDay + 1 else if 1 ≤ targetDay - 2 then targetDay - 2 else targetDay
  else targetDay

/-- `nL`: the last such weekday of the month. -/
def lastWeekdayInMonth (year month wd : ℤ) : ℤ :=
  let lastDay := lastDayOfMonth year month
  lastDay - (weekday (date year month lastDay) - wd + 7).tmod 7

/-- The `n`-th such weekday of the month, 0 when there is none. -/
def nthWeekdayInMonth (year month wd n : ℤ) : ℤ :=
  if n < 1 ∨ 5 < n then 0
  else
    let day := 1 + (wd - weekday (date year month 1) + 7).tmod 7 + (n - 1) * 7
    if lastDayOfMonth year month < day then 0 else day

/-! ## Fields -/

/-- The minute, the hour or the month. -/
structure CronField where
  values : List ℤ
  wildcard : Bool
  deriving DecidableEq, Repr

/-- A wildcard has all its values. -/
def CronField.matches (cf : CronField) (v : ℤ) : Bool := v ∈ cf.values

/-- The day of the month. -/
structure DomField where
  wildcard : Bool
  values : List ℤ
  /-- `L` is 0, `L-3` is 3 -/
  lastOffsets : List ℤ
  /-- `nW` -/
  nearestW : List ℤ
  hasLW : Bool
  deriving DecidableEq, Repr

/-- Any field but `*`. -/
def DomField.isRestricted (f : DomField) : Bool := !f.wildcard

/-- The date is one of those that the field names. -/
def DomField.matches (f : DomField) (d : ℤ) : Bool :=
  if f.wildcard then true
  else
    let lastDay := lastDayOfMonth (yearOf d) (monthOfYear d)
    if dayOfMonth d ∈ f.values then true
    else if f.lastOffsets.any fun offset => dayOfMonth d = lastDay - offset then true
    else if f.nearestW.any fun n => dayOfMonth d = nearestWeekday (yearOf d) (monthOfYear d) n then true
    else f.hasLW && dayOfMonth d = nearestWeekday (yearOf d) (monthOfYear d) lastDay

/-- The day of the week, where Sunday is 0. -/
structure DowField where
  wildcard : Bool
  values : List ℤ
  /-- `nL` -/
  lastDow : List ℤ
  /-- `n#m` -/
  nthDow : List (ℤ × ℤ)
  deriving DecidableEq, Repr

/-- Any field but `*`. -/
def DowField.isRestricted (f : DowField) : Bool := !f.wildcard

/-- The weekday, or its place in the month, is one that the field names. -/
def DowField.matches (f : DowField) (d : ℤ) : Bool :=
  if f.wildcard then true
  else if weekday d ∈ f.values then true
  else if f.lastDow.any fun dow =>
    weekday d = dow ∧ dayOfMonth d = lastWeekdayInMonth (yearOf d) (monthOfYear d) dow then true
  else f.nthDow.any fun e =>
    weekday d = e.1 ∧ 0 < nthWeekdayInMonth (yearOf d) (monthOfYear d) e.1 e.2 ∧
      dayOfMonth d = nthWeekdayInMonth (yearOf d) (monthOfYear d) e.1 e.2

/-- A schedule of five fields. -/
structure Cron where
  minutes : CronField
  hours : CronField
  dom : DomField
  month : CronField
  dow : DowField
  deriving DecidableEq, Repr

/-! ## Parsing -/

/-- What a field is refused with; a token or field is quoted, numbers are printed. -/
inductive FieldError where
  /-- `invalid step %q` -/
  | step (field : List Char)
  /-- `invalid range %q` -/
  | range (token : List Char)
  /-- `invalid range %q (start > end)` -/
  | rangeOrder (token : List Char)
  /-- `range %q out of bounds (%d-%d)` -/
  | rangeBounds (token : List Char) (min max : ℤ)
  /-- `invalid value %q` -/
  | value (token : List Char)
  /-- `value %d out of range (%d-%d)` -/
  | valueBounds (v min max : ℤ)
  /-- `invalid L offset %q (must be 0-30)` -/
  | lastOffset (token : List Char)
  /-- `invalid W day %q (must be 1-31)` -/
  | nearest (token : List Char)
  /-- `invalid day value %q` -/
  | dayValue (token : List Char)
  /-- `day value %d out of range (1-31)` -/
  | dayBounds (v : ℤ)
  /-- `weekday %d out of range (0-7)` -/
  | weekdayBounds (v : ℤ)
  /-- `invalid weekday %q` -/
  | weekday (token : List Char)
  /-- `invalid # syntax %q` -/
  | occurrence (token : List Char)
  /-- `# occurrence %d out of range (1-5) in %q` -/
  | occurrenceBounds (n : ℤ) (token : List Char)
  /-- `invalid L syntax %q` -/
  | last (token : List Char)
  /-- `# syntax %q: %w` -/
  | inOccurrence (token : List Char) (e : FieldError)
  /-- `invalid L syntax %q: %w` -/
  | inLast (token : List Char) (e : FieldError)
  /-- `range start in %q: %w` -/
  | inStart (token : List Char) (e : FieldError)
  /-- `range end in %q: %w` -/
  | inEnd (token : List Char) (e : FieldError)
  deriving DecidableEq, Repr

/-- The field that `ParseCron` could not read. -/
inductive CronError where
  /-- `invalid cron: expected 5 fields, got %d in %q` -/
  | fields (n : ℕ) (spec : List Char)
  | minuteField (e : FieldError)
  | hourField (e : FieldError)
  | dayOfMonthField (e : FieldError)
  | monthField (e : FieldError)
  | dayOfWeekField (e : FieldError)
  deriving DecidableEq, Repr

/-- `strconv.Atoi` -/
def atoi (s : List Char) : Option ℤ := (parseInt s).map Int64.toInt

/-- `strings.TrimSpace` -/
def trim (s : List Char) : List Char :=
  ((s.dropWhile Ledger.isSpace).reverse.dropWhile Ledger.isSpace).reverse

/-- `strings.Fields` -/
def fields (s : List Char) : List (List Char) := (s.splitOnP Ledger.isSpace).filter (· ≠ [])

/-- `strings.SplitN(token, sep, 2)` of a token that has the separator. -/
def splitFirst (sep : Char) (token : List Char) : List Char × List Char :=
  (token.takeWhile (· ≠ sep), (token.dropWhile (· ≠ sep)).tail)

/-- The parts of a list. -/
def tokens (field : List Char) : List (List Char) := (field.splitOn ',').map trim

/-- The numbers from `start` to `last`. -/
def interval (start last : ℤ) : List ℤ := (List.range (last - start + 1).toNat).map (start + ·)

/-- The values of a field `*/n`. A step so large that the loop's variable overflows adds none of the range. -/
def parseStep (field : List Char) (min max : ℤ) : Except FieldError (List ℤ) :=
  match atoi (field.drop 2) with
  | none => .error (.step field)
  | some step =>
    if step ≤ 0 then .error (.step field) else .ok ((interval min max).filter fun i => (i - min) % step = 0)

/-- A range of the numeric fields and of the days of a month. -/
def parseRange (token : List Char) (min max : ℤ) : Except FieldError (List ℤ) :=
  let bounds := splitFirst '-' token
  match atoi bounds.1, atoi bounds.2 with
  | some start, some last =>
    if last < start then .error (.rangeOrder token)
    else if start < min ∨ max < last then .error (.rangeBounds token min max)
    else .ok (interval start last)
  | _, _ => .error (.range token)

/-- A number within the bounds of its field. -/
def parseValue (token : List Char) (min max : ℤ) : Except FieldError ℤ :=
  match atoi token with
  | none => .error (.value token)
  | some v => if v < min ∨ max < v then .error (.valueBounds v min max) else .ok v

/-- `*`, a step, or a list of values and ranges. -/
def parseCronField (field : List Char) (min max : ℤ) : Except FieldError CronField :=
  if field = ['*'] then .ok { values := interval min max, wildcard := true }
  else if ['*', '/'].isPrefixOf field then do
    return { values := ← parseStep field min max, wildcard := false }
  else
    (tokens field).foldlM (fun cf token => do
      if '-' ∈ token then return { cf with values := cf.values ++ (← parseRange token min max) }
      else return { cf with values := cf.values ++ [← parseValue token min max] })
      { values := [], wildcard := false }

/-- One token of the day-of-month field. -/
def DomField.add (df : DomField) (token : List Char) : Except FieldError DomField :=
  if token = ['L'] then .ok { df with lastOffsets := df.lastOffsets ++ [0] }
  else if token = ['L', 'W'] then .ok { df with hasLW := true }
  else if ['L', '-'].isPrefixOf token then
    match atoi (token.drop 2) with
    | none => .error (.lastOffset token)
    | some n =>
      if n < 0 ∨ 30 < n then .error (.lastOffset token)
      else .ok { df with lastOffsets := df.lastOffsets ++ [n] }
  else if ['W'].isSuffixOf token then
    match atoi token.dropLast with
    | none => .error (.nearest token)
    | some n =>
      if n < 1 ∨ 31 < n then .error (.nearest token) else .ok { df with nearestW := df.nearestW ++ [n] }
  else if '-' ∈ token then do return { df with values := df.values ++ (← parseRange token 1 31) }
  else
    match atoi token with
    | none => .error (.dayValue token)
    | some v => if v < 1 ∨ 31 < v then .error (.dayBounds v) else .ok { df with values := df.values ++ [v] }

/-- The same with `L`, `L-n`, `nW` and `LW` in the list. -/
def parseDOMField (field : List Char) : Except FieldError DomField :=
  let df : DomField := { wildcard := false, values := [], lastOffsets := [], nearestW := [], hasLW := false }
  if field = ['*'] then .ok { df with wildcard := true }
  else if ['*', '/'].isPrefixOf field then do return { df with values := ← parseStep field 1 31 }
  else (tokens field).foldlM DomField.add df

/-- Sunday is 0 or 7. -/
def normalizeDOW (v : ℤ) : Except FieldError ℤ :=
  let v := if v = 7 then 0 else v
  if v < 0 ∨ 6 < v then .error (.weekdayBounds v) else .ok v

/-- One token of the day-of-week field. -/
def DowField.add (df : DowField) (token : List Char) : Except FieldError DowField :=
  if '#' ∈ token then
    let parts := splitFirst '#' token
    match atoi parts.1, atoi parts.2 with
    | some rawDow, some n => do
      let dow ← (normalizeDOW rawDow).mapError (.inOccurrence token)
      if n < 1 ∨ 5 < n then throw (.occurrenceBounds n token)
      return { df with nthDow := df.nthDow ++ [(dow, n)] }
    | _, _ => .error (.occurrence token)
  else if ['L'].isSuffixOf token then
    match atoi token.dropLast with
    | none => .error (.last token)
    | some rawDow => do
      let dow ← (normalizeDOW rawDow).mapError (.inLast token)
      return { df with lastDow := df.lastDow ++ [dow] }
  else if '-' ∈ token then
    let bounds := splitFirst '-' token
    match atoi bounds.1, atoi bounds.2 with
    | some rawStart, some rawEnd => do
      let start ← (normalizeDOW rawStart).mapError (.inStart token)
      let last ← (normalizeDOW rawEnd).mapError (.inEnd token)
      if last < start then throw (.rangeOrder token)
      return { df with values := df.values ++ interval start last }
    | _, _ => .error (.range token)
  else
    match atoi token with
    | none => .error (.weekday token)
    | some rawDow => do return { df with values := df.values ++ [← normalizeDOW rawDow] }

/-- The same with `nL` and `n#m` in the list. -/
def parseDOWField (field : List Char) : Except FieldError DowField :=
  let df : DowField := { wildcard := false, values := [], lastDow := [], nthDow := [] }
  if field = ['*'] then .ok { df with wildcard := true }
  else if ['*', '/'].isPrefixOf field then do return { df with values := ← parseStep field 0 6 }
  else (tokens field).foldlM DowField.add df

/-- The five fields in their order; the first that fails gives the error. -/
def parseCron (spec : List Char) : Except CronError Cron :=
  match fields spec with
  | [minutes, hours, dom, month, dow] => do
    let minutes ← (parseCronField minutes 0 59).mapError .minuteField
    let hours ← (parseCronField hours 0 23).mapError .hourField
    let dom ← (parseDOMField dom).mapError .dayOfMonthField
    let month ← (parseCronField month 1 12).mapError .monthField
    let dow ← (parseDOWField dow).mapError .dayOfWeekField
    return { minutes, hours, dom, month, dow }
  | parts => .error (.fields parts.length spec)

/-! ## `Next` -/

/-- The minutes of four years. -/
def maxNextIter : ℕ := 366 * 4 * 24 * 60

/-- The day of month and the day of week are alternatives where both are restricted. -/
def Cron.dayOK (c : Cron) (d : ℤ) : Bool :=
  if c.dom.isRestricted && c.dow.isRestricted then c.dom.matches d || c.dow.matches d
  else if c.dom.isRestricted then c.dom.matches d
  else if c.dow.isRestricted then c.dow.matches d
  else true

/-- One round at the instant `t`: where it goes on, and none where `t` is returned. -/
def Cron.jump (c : Cron) (offset : ℤ) (t : ℤ) : Option ℤ :=
  let clock := t + offset * second
  let d := clock / day
  if !c.month.matches (monthOfYear d) then some (date (yearOf d) (monthOfYear d + 1) 1 * day - offset * second)
  else if !c.dayOK d then some (date (yearOf d) (monthOfYear d) (dayOfMonth d + 1) * day - offset * second)
  else if !c.hours.matches (clock / hour % 24) then some (truncate t hour + hour)
  else if !c.minutes.matches (clock / minute % 60) then some (t + minute)
  else none

/-- The first time after `t` that matches, searched from the next full minute. -/
def Cron.next (c : Cron) (offset : ℤ) (t : ℤ) : Option ℤ :=
  search (c.jump offset) maxNextIter (truncate (t + minute) minute)

end Seev.Scheduling
