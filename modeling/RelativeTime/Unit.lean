import RelativeTime.Calendar

/-!
# Units of time

A clock unit is a fixed span of elapsed time. A calendar unit is a kind of calendar period, whose
length varies; it is given by the index of the period around a day and the first day of the period
with an index.
-/

namespace RelativeTime

/-- The units that measure elapsed time. -/
inductive ClockUnit where
  | millisecond
  | second
  | minute
  | hour
  deriving DecidableEq

/-- The units that follow the calendar. Weeks start on Monday. -/
inductive CalendarUnit where
  | day
  | week
  | month
  | year
  deriving DecidableEq

/-- The units of relative time expressions. -/
inductive TimeUnit where
  | clock (unit : ClockUnit)
  | calendar (unit : CalendarUnit)
  deriving DecidableEq

/-! ## Clock units -/

def ClockUnit.micros : ClockUnit → Int
  | .millisecond => 1000
  | .second => 1000000
  | .minute => 60000000
  | .hour => 3600000000

theorem ClockUnit.micros_pos (unit : ClockUnit) : 0 < unit.micros := by
  cases unit <;> decide

/-! ## Calendar units -/

def CalendarUnit.index : CalendarUnit → Int → Int
  | .day, d => d
  | .week, d => d / 7
  | .month, d => Calendar.monthIndex d
  | .year, d => Calendar.yearIndex d

def CalendarUnit.start : CalendarUnit → Int → Int
  | .day, k => k
  | .week, k => 7 * k
  | .month, k => Calendar.monthStart k
  | .year, k => Calendar.yearStart k

def CalendarUnit.floor (unit : CalendarUnit) (d : Int) : Int :=
  unit.start (unit.index d)

/-- The first day after the period around day `d`. -/
def CalendarUnit.next (unit : CalendarUnit) (d : Int) : Int :=
  unit.start (unit.index d + 1)

/-- Day `d` moved by `n` periods. Days and weeks count days; months and years keep the day of the
month, or take the last day of a shorter month. -/
def CalendarUnit.shift : CalendarUnit → Int → Int → Int
  | .day, n, d => d + n
  | .week, n, d => d + 7 * n
  | .month, n, d => Calendar.onMonth d (Calendar.monthIndex d + n)
  | .year, n, d => Calendar.onMonth d (Calendar.monthIndex d + 12 * n)

/-! ## Codes and names -/

def TimeUnit.all : List TimeUnit :=
  [.clock .millisecond, .clock .second, .clock .minute, .clock .hour,
    .calendar .day, .calendar .week, .calendar .month, .calendar .year]

def TimeUnit.code : TimeUnit → String
  | .clock .millisecond => "ms"
  | .clock .second => "s"
  | .clock .minute => "m"
  | .clock .hour => "h"
  | .calendar .day => "d"
  | .calendar .week => "w"
  | .calendar .month => "mo"
  | .calendar .year => "y"

def TimeUnit.name : TimeUnit → String
  | .clock .millisecond => "millisecond"
  | .clock .second => "second"
  | .clock .minute => "minute"
  | .clock .hour => "hour"
  | .calendar .day => "day"
  | .calendar .week => "week"
  | .calendar .month => "month"
  | .calendar .year => "year"

def TimeUnit.ofCode? (code : String) : Option TimeUnit :=
  TimeUnit.all.find? (·.code = code)

theorem TimeUnit.ofCode?_code (unit : TimeUnit) : TimeUnit.ofCode? unit.code = some unit := by
  cases unit with
  | clock unit => cases unit <;> decide
  | calendar unit => cases unit <;> decide

end RelativeTime
