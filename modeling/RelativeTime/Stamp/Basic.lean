import RelativeTime.TimeError
import RelativeTime.Zone.Local

/-!
# Stamps

A stamp is an instant of universal time to the nanosecond together with the zone of the clock that
shows it, or a bare wall time if it has no zone. It comes in two widths. A coarse stamp counts whole
microseconds and reaches all supported years; a fine stamp counts nanoseconds and reaches as far as
64 bits do around 1970, from 1677 to 2262. Both are kept in nanoseconds from the start of the year 1.
-/

namespace RelativeTime

/-- The count of nanoseconds, of universal time for a stamp with a zone and of the wall clock for
one without, whether the stamp is fine, and the zone. -/
structure Stamp where
  count : Int
  isFine : Bool
  zone : Option Zone
  deriving DecidableEq

namespace Stamp

def perSecond : Int := 1000000000

def perDay : Int := 86400 * perSecond

def epoch : Int := epoch1970 * perSecond

/-- Whether a count of nanoseconds is in reach of coarse or of fine stamps. -/
def InRange (isFine : Bool) (t : Int) : Prop :=
  if isFine then fits64 (t - epoch) = true else 0 ≤ t ∧ t < Calendar.dayLimit * perDay

instance (isFine : Bool) (t : Int) : Decidable (InRange isFine t) := by
  unfold InRange
  infer_instance

/-- Refuses a count of nanoseconds that is out of reach. -/
def check (isFine : Bool) (t : Int) : Except TimeError Int :=
  if InRange isFine t then .ok t else .error (.overflow .date)

/-! ## Between local and universal time -/

/-- What is in force at the stamp's instant; the wall time of a stamp without a zone is taken for
universal time. -/
def period (v : Stamp) : Period :=
  match v.zone with
  | some zone => zone.periodAt (v.count / perSecond)
  | none => ⟨.zero, false⟩

def wall (v : Stamp) : Int :=
  v.count + v.period.offset.seconds * perSecond

/-- The stamp with the given count, if it and its wall time are in reach. -/
def ofCount? (isFine : Bool) (zone : Option Zone) (count : Int) : Except TimeError Stamp := do
  let count ← check isFine count
  let v : Stamp := { count, isFine, zone }
  let _ ← check isFine v.wall
  return v

/-- The nanosecond of universal time at which a clock shows `wall`. Of a repeated wall time
`isFirst` chooses the first showing; in place of a skipped one stands the end of the stretch that is
skipped. -/
def instantOf (zone : Zone) (wall : Int) (isFirst : Bool) : Int :=
  let s := wall / perSecond
  match zone.reading s with
  | .once offset => wall - offset * perSecond
  | .twice first second => wall - (if isFirst then first else second) * perSecond
  | .never before after => zone.skipSecond s before after * perSecond

/-- The stamp whose wall time is `f` of the wall time of `v`. A repeated wall time is read in its
first showing if daylight saving time is in force at `v`, and in its second one otherwise. -/
def onWallClock (v : Stamp) (f : Int → Except TimeError Int) : Except TimeError Stamp := do
  let wall ← f v.wall
  let wall ← check v.isFine wall
  match v.zone with
  | none => return { v with count := wall }
  | some zone => ofCount? v.isFine zone (instantOf zone wall v.period.isDst)

def elapse (v : Stamp) (delta : Int) : Except TimeError Stamp :=
  ofCount? v.isFine v.zone (v.count + delta)

/-- The last nanosecond before a stamp, as a fine stamp. -/
def justBefore (v : Stamp) : Except TimeError Stamp :=
  elapse { v with isFine := true } (-1)

end Stamp

end RelativeTime
