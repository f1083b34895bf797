/-!
# The calendar

Days are numbered from January 1st of the year 1, which has number 0 and is a Monday, in the
Gregorian calendar extended to all integers. Years and months are numbered from 0 as well: the year
with index `y` is the year `y + 1`, and the months of that year have the indices `12 * y` to
`12 * y + 11`. A period of the calendar is then an index, and the facts that matter about a kind of
period are its two maps, the first day of the period with a given index and the index of the period
around a given day.
-/

namespace RelativeTime.Calendar

/-! ## Years -/

/-- The days before January 1st of the year with index `y`. -/
def yearStart (y : Int) : Int :=
  365 * y + y / 4 - y / 100 + y / 400

/-- The index of the year around day `d`. 146097 days make 400 years, so the quotient is the index
or one less. -/
def yearIndex (d : Int) : Int :=
  let y := 400 * d / 146097
  if yearStart (y + 1) ≤ d then y + 1 else y

/-- Whether the year with index `y` has 366 days. -/
def isLeap (y : Int) : Bool :=
  (y + 1) % 4 = 0 && ((y + 1) % 100 ≠ 0 || (y + 1) % 400 = 0)

/-! ## Months -/

/-- The days of a year before its month `m`, counted from 0. -/
def daysBeforeMonth (leap : Bool) (m : Int) : Int :=
  (367 * m + 5) / 12 - if m < 2 then 0 else if leap then 1 else 2

def monthStart (k : Int) : Int :=
  yearStart (k / 12) + daysBeforeMonth (isLeap (k / 12)) (k % 12)

/-- The month of a year, counted from 0, around day `r` of that year. -/
def monthOfYear (leap : Bool) (r : Int) : Int :=
  let shift := if r < daysBeforeMonth leap 2 then 0 else if leap then 1 else 2
  (12 * (r + shift) + 6) / 367

def monthIndex (d : Int) : Int :=
  let y := yearIndex d
  12 * y + monthOfYear (isLeap y) (d - yearStart y)

def monthLength (k : Int) : Int :=
  monthStart (k + 1) - monthStart k

/-- The day in the month with index `k` that has the number of day `d` in its own month, or the last
day of that month if it is shorter. -/
def onMonth (d k : Int) : Int :=
  monthStart k + min (d - monthStart (monthIndex d)) (monthLength k - 1)

/-! ## Weekdays -/

/-- The weekday of day `d`, counted from Monday. -/
def weekday (d : Int) : Int := d % 7

/-! ## The supported range -/

def lastYear : Int := 9999

def dayLimit : Int := yearStart lastYear

theorem dayLimit_eq : dayLimit = 3652059 := by decide

/-! ## Dates -/

/-- A day by the numbers of its year, month and day of the month, all counted from 1. -/
structure Date where
  year : Int
  month : Int
  day : Int
  deriving DecidableEq

def Date.ofDay (d : Int) : Date :=
  let k := monthIndex d
  { year := k / 12 + 1, month := k % 12 + 1, day := d - monthStart k + 1 }

def Date.toDay (date : Date) : Int :=
  monthStart (12 * (date.year - 1) + (date.month - 1)) + (date.day - 1)

end RelativeTime.Calendar
