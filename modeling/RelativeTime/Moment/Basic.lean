import RelativeTime.TimeError
import RelativeTime.Zone.Local

/-!
# Moments

A moment is what a wall clock shows, to the microsecond, with the zone of the clock. Microseconds
are counted from the start of the year 1. In a zone where clocks are set back a wall time can be
shown twice, and a mark says which showing is meant; the mark also chooses a reading for wall times
that are skipped. A moment without a zone is a wall time and nothing more.

A moment that is the local form of an instant is in a normal form: its wall time is shown, and it is
marked exactly when it is the second showing. `Moment.normalize` goes there through universal time. A
moment of universal time need not go anywhere and keeps even a mark that means nothing.
-/

namespace RelativeTime

/-- The wall time in microseconds, the mark for the second showing and the zone, if any. -/
structure Moment where
  wall : Int
  secondPass : Bool
  zone : Option Zone
  deriving DecidableEq

namespace Moment

def perSecond : Int := 1000000

def perDay : Int := 86400 * perSecond

/-- The microsecond after the last supported one. -/
def wallLimit : Int := Calendar.dayLimit * perDay

/-- Whether a count of microseconds lies in the supported years. -/
def InRange (t : Int) : Prop := 0 ≤ t ∧ t < wallLimit

instance (t : Int) : Decidable (InRange t) := inferInstanceAs (Decidable (_ ∧ _))

/-- Refuses a count of microseconds outside the supported years. -/
def check (t : Int) : Except TimeError Int :=
  if InRange t then .ok t else .error (.overflow .date)

/-! ## Between local and universal time -/

/-- The offset of the moment's clock in seconds, if it has a zone. -/
def offset? (v : Moment) : Option Int :=
  v.zone.map fun zone => zone.wallOffset (v.wall / perSecond) v.secondPass

/-- The microsecond of universal time that the moment stands for. A moment without a zone is taken
for universal time. -/
def instant (v : Moment) : Int :=
  v.wall - v.offset?.getD 0 * perSecond

def ofInstant (zone : Zone) (u : Int) : Moment where
  wall := u + zone.offsetAt (u / perSecond) * perSecond
  secondPass := zone.isSecondPass (u / perSecond)
  zone := some zone

/-- What a clock shows at microsecond `u` of universal time, if both lie in the supported years. -/
def ofInstant? (zone : Zone) (u : Int) : Except TimeError Moment := do
  let u ← check u
  let v := ofInstant zone u
  let _ ← check v.wall
  return v

/-- The local form of the instant that a moment stands for. Without a zone there is nothing to
change, and in universal time there is nothing to convert. -/
def normalize (v : Moment) : Except TimeError Moment :=
  match v.zone with
  | none => .ok v
  | some zone =>
    if zone.isUniversal then (check v.wall).map fun _ => v else ofInstant? zone v.instant

def elapse (v : Moment) (delta : Int) : Except TimeError Moment :=
  match v.zone with
  | none => do return { v with wall := ← check (v.wall + delta), secondPass := false }
  | some zone => do
    let u ← check v.instant
    ofInstant? zone (u + delta)

/-- The midnight that starts day `d` on a clock, or what the clock shows instead of it. -/
def startOfDay (zone : Option Zone) (d : Int) : Except TimeError Moment :=
  normalize { wall := d * perDay, secondPass := false, zone }

def day (v : Moment) : Int := v.wall / perDay

def timeOfDay (v : Moment) : Int := v.wall % perDay

end Moment

end RelativeTime
