import RelativeTime.Calendar
import RelativeTime.Text.Decimal
import RelativeTime.Zone.Offset

/-!
# Yearly rules

A yearly rule repeats the same two clock changes every year, each on a weekday of a month at a time
of day: `CET-1CEST,M3.5.0,M10.5.0/3` is an hour ahead of universal time and one hour more from the
last Sunday of March, 02:00, to the last Sunday of October, 03:00. The rule without its changes,
`JST-9`, is a constant offset. In the written form offsets count westward, so their sign is opposite
to that of a `UtcOffset`.
-/

namespace RelativeTime

/-- What a clock shows for a while: its offset and whether that is daylight saving time. -/
structure Period where
  offset : UtcOffset
  isDst : Bool
  deriving DecidableEq

/-- A moment of every year: second `time` after the midnight that starts a weekday of a month.
`week` counts the weekdays of the month, 5 standing for the last, and `weekday` counts from Sunday,
both as in the written form. -/
structure YearlyMoment where
  month : Int
  week : Int
  weekday : Int
  time : Int
  deriving DecidableEq

/-- The daylight saving time of a yearly rule. -/
structure YearlyDaylight where
  offset : UtcOffset
  start : YearlyMoment
  stop : YearlyMoment
  deriving DecidableEq

/-- An offset of every year and the daylight saving time that interrupts it, if any. -/
structure YearlyRule where
  standard : UtcOffset
  daylight : Option YearlyDaylight
  deriving DecidableEq

def YearlyMoment.day (moment : YearlyMoment) (y : Int) : Int :=
  let k := 12 * y + (moment.month - 1)
  let first := Calendar.monthStart k
  let day := first + (moment.weekday + 6 - first) % 7 + 7 * (moment.week - 1)
  if day < first + Calendar.monthLength k then day else day - 7

/-- The second that the clock shows at the moment in the year with index `y`. -/
def YearlyMoment.second (moment : YearlyMoment) (y : Int) : Int :=
  86400 * moment.day y + moment.time

/-- Whether daylight saving time is in force at second `u` of universal time. The changes of the
year of `u` decide; where the start comes after the end, the daylight saving time of one year runs
into the next. -/
def YearlyDaylight.inForce (daylight : YearlyDaylight) (standard : UtcOffset) (u : Int) : Bool :=
  let y := Calendar.yearIndex (u / 86400)
  let start := daylight.start.second y - standard.seconds
  let stop := daylight.stop.second y - daylight.offset.seconds
  if start < stop then start ≤ u && u < stop else !(stop ≤ u && u < start)

def YearlyRule.periodAt (rule : YearlyRule) (u : Int) : Period :=
  match rule.daylight with
  | none => ⟨rule.standard, false⟩
  | some daylight =>
    if daylight.inForce rule.standard u then ⟨daylight.offset, true⟩ else ⟨rule.standard, false⟩

/-! ## The written form -/

namespace YearlyRule

/-- The digits at the front of a text as a number, and the rest. -/
def number? (cs : List Char) : Option (Int × List Char) :=
  match cs.span Char.isDigit with
  | ([], _) => none
  | (digits, rest) => some ((Text.decimalValue digits : Int), rest)

/-- A number after the mark `mark`, if the text goes on with the mark; 0 otherwise. -/
def markedNumber? (mark : Char) (cs : List Char) : Option (Int × List Char) :=
  match cs with
  | c :: rest => if c = mark then number? rest else some (0, cs)
  | [] => some (0, [])

/-- A span written as hours with optional minutes and seconds, in seconds. -/
def span? (cs : List Char) : Option (Int × List Char) := do
  let (hours, rest) ← number? cs
  let (minutes, rest) ← markedNumber? ':' rest
  let (seconds, rest) ← markedNumber? ':' rest
  return (3600 * hours + 60 * minutes + seconds, rest)

def signedSpan? (cs : List Char) : Option (Int × List Char) :=
  match cs with
  | '-' :: rest => (span? rest).map fun (seconds, rest) => (-seconds, rest)
  | '+' :: rest => span? rest
  | _ => span? cs

/-- The text after the name of an offset, either letters or anything between angle brackets. -/
def afterName? (cs : List Char) : Option (List Char) :=
  match cs with
  | '<' :: rest => match rest.dropWhile (· ≠ '>') with
    | '>' :: rest => some rest
    | _ => none
  | _ => match cs.span Char.isAlpha with
    | ([], _) => none
    | (_, rest) => some rest

/-- A moment `Mmonth.week.weekday`, at 02:00 or at the time after a slash. -/
def moment? (cs : List Char) : Option (YearlyMoment × List Char) := do
  let 'M' :: rest := cs | none
  let (month, rest) ← number? rest
  let '.' :: rest := rest | none
  let (week, rest) ← number? rest
  let '.' :: rest := rest | none
  let (weekday, rest) ← number? rest
  match rest with
  | '/' :: rest =>
    let (time, rest) ← signedSpan? rest
    return (⟨month, week, weekday, time⟩, rest)
  | _ => return (⟨month, week, weekday, 7200⟩, rest)

/-- The offset of daylight saving time and the text after it: an hour more than the standard offset
where none is written. -/
def daylightOffset? (standard : UtcOffset) (cs : List Char) : Option (UtcOffset × List Char) :=
  match cs with
  | ',' :: _ => do return (← UtcOffset.ofSeconds? (standard.seconds + 3600), cs)
  | _ => do
    let (west, rest) ← signedSpan? cs
    return (← UtcOffset.ofSeconds? (-west), rest)

def ofText? (text : String) : Option YearlyRule := do
  let rest ← afterName? text.toList
  let (west, rest) ← signedSpan? rest
  let standard ← UtcOffset.ofSeconds? (-west)
  if rest.isEmpty then
    return { standard, daylight := none }
  let rest ← afterName? rest
  let (offset, rest) ← daylightOffset? standard rest
  let ',' :: rest := rest | none
  let (start, rest) ← moment? rest
  let ',' :: rest := rest | none
  let (stop, rest) ← moment? rest
  guard rest.isEmpty
  return { standard, daylight := some { offset, start, stop } }

end YearlyRule

end RelativeTime
