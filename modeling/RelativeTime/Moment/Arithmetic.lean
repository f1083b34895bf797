import RelativeTime.Adapter
import RelativeTime.Moment.Basic
import RelativeTime.Unit.Checked

/-!
# Arithmetic of moments

Clock units measure elapsed time: adding an hour across a change of clocks adds 3600 seconds, and
the period of a minute starts where the wall clock shows a whole minute and lasts sixty seconds.
Calendar units move on the wall clock: adding a day keeps the time of day, and a period starts at
the midnight of its first day. A wall time that the clocks skip is replaced by the local form of the
instant it stands for. Rounding up ends one microsecond before the next period starts.
-/

namespace RelativeTime

namespace Moment

def justBefore (v : Moment) : Except TimeError Moment :=
  v.elapse (-1)

/-! ## Clock units -/

def clockFloor (unit : ClockUnit) (v : Moment) : Except TimeError Moment :=
  normalize { v with wall := v.wall - v.wall % unit.micros }

def clockCeil (unit : ClockUnit) (v : Moment) : Except TimeError Moment := do
  let start ← clockFloor unit v
  let next ← start.elapse unit.micros
  next.justBefore

def clockAdd (unit : ClockUnit) (v : Moment) (amount : Int) : Except TimeError Moment := do
  checkSpan (amount * unit.micros / perDay)
  v.elapse (amount * unit.micros)

/-! ## Calendar units -/

/-- A moment `amount` calendar units later, at the same time of day. -/
def calendarAdd (unit : CalendarUnit) (v : Moment) (amount : Int) : Except TimeError Moment := do
  let d ← unit.shift? amount v.day
  normalize { v with wall := d * perDay + v.timeOfDay, secondPass := false }

def calendarFloor (unit : CalendarUnit) (v : Moment) : Except TimeError Moment :=
  startOfDay v.zone (unit.floor v.day)

def calendarCeil (unit : CalendarUnit) (v : Moment) : Except TimeError Moment := do
  let d ← unit.next? v.day
  let next ← startOfDay v.zone d
  next.justBefore

/-! ## All units -/

def add : TimeUnit → Moment → Int → Except TimeError Moment
  | .clock unit => clockAdd unit
  | .calendar unit => calendarAdd unit

def round : TimeUnit → Direction → Moment → Except TimeError Moment
  | .clock unit, .down => clockFloor unit
  | .clock unit, .up => clockCeil unit
  | .calendar unit, .down => calendarFloor unit
  | .calendar unit, .up => calendarCeil unit

end Moment

end RelativeTime
