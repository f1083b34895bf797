import RelativeTime.Adapter
import RelativeTime.Stamp.Basic
import RelativeTime.Unit.Checked

/-!
# Arithmetic of stamps

The units mean the same as for moments, but every boundary is found on the wall clock and then read
back in the zone, and rounding up ends one nanosecond before the next period, which makes the stamp
fine.
-/

namespace RelativeTime

namespace Stamp

/-! ## Clock units -/

def nanos (unit : ClockUnit) : Int := 1000 * unit.micros

def clockFloor (unit : ClockUnit) (v : Stamp) : Except TimeError Stamp :=
  v.onWallClock fun wall => .ok (wall - wall % nanos unit)

def clockCeil (unit : ClockUnit) (v : Stamp) : Except TimeError Stamp := do
  let start ← clockFloor unit v
  let next ← start.elapse (nanos unit)
  next.justBefore

/-- A stamp `amount` units of elapsed time later. The span to be added to a fine stamp must itself
fit 64 bits. -/
def clockAdd (unit : ClockUnit) (v : Stamp) (amount : Int) : Except TimeError Stamp :=
  if v.isFine && !fits64 (amount * nanos unit) then .error (.overflow .date)
  else v.elapse (amount * nanos unit)

/-! ## Calendar units -/

/-- A stamp `amount` calendar units later, at the same time of day. -/
def calendarAdd (unit : CalendarUnit) (v : Stamp) (amount : Int) : Except TimeError Stamp :=
  v.onWallClock fun wall => do
    let d ← unit.shift? amount (wall / perDay)
    return d * perDay + wall % perDay

/-- The wall time at which the unit's period around a wall time starts. -/
def wallFloor (unit : CalendarUnit) (isFine : Bool) (wall : Int) : Except TimeError Int :=
  check isFine (unit.floor (wall / perDay) * perDay)

def calendarFloor (unit : CalendarUnit) (v : Stamp) : Except TimeError Stamp :=
  v.onWallClock (wallFloor unit v.isFine)

/-- The end of the unit's period around a stamp. The start of that period must be in reach too. -/
def calendarCeil (unit : CalendarUnit) (v : Stamp) : Except TimeError Stamp := do
  let next ← v.onWallClock fun wall => do
    let start ← wallFloor unit v.isFine wall
    let d ← unit.next? (start / perDay)
    return d * perDay
  next.justBefore

/-! ## All units -/

def add : TimeUnit → Stamp → Int → Except TimeError Stamp
  | .clock unit => clockAdd unit
  | .calendar unit => calendarAdd unit

def round : TimeUnit → Direction → Stamp → Except TimeError Stamp
  | .clock unit, .down => clockFloor unit
  | .clock unit, .up => clockCeil unit
  | .calendar unit, .down => calendarFloor unit
  | .calendar unit, .up => calendarCeil unit

end Stamp

end RelativeTime
