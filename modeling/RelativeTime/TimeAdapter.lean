import RelativeTime.Config
import RelativeTime.Moment.Arithmetic
import RelativeTime.Moment.Iso
import RelativeTime.Stamp.Arithmetic
import RelativeTime.Stamp.Iso
import RelativeTime.Zone.Database

/-!
# The two adapters of time

Expressions can be read over moments or over stamps. Both adapters provide all units, take a zone by
its key or ready made, and look a key up only when the clock is read, since a time value carries its
zone from then on. Each looks it up in its own way.
-/

namespace RelativeTime

/-- A time zone by its key or ready made. -/
inductive ZoneRef where
  | named (key : String)
  | given (zone : Zone)

namespace ZoneRef

variable [ZoneDatabase]

def zone : ZoneRef → Except ZoneKeyError Zone
  | .named key => Zone.named key
  | .given zone => .ok zone

/-- The zone as stamps look it up. -/
def zoneForStamp : ZoneRef → Except ZoneKeyError Zone
  | .named key => ZoneDatabase.findForStamp key
  | .given zone => .ok zone

theorem zoneForStamp_of_zone {ref : ZoneRef} {zone : Zone} (known : ref.zone = .ok zone) :
    ref.zoneForStamp = .ok zone := by
  cases ref with
  | named key => exact Zone.forStamp_of_named known
  | given zone' => exact known

end ZoneRef

/-- Why a call of a time adapter failed. -/
inductive AdapterError where
  | zone (error : ZoneKeyError)
  | time (error : TimeError)
  deriving DecidableEq

def AdapterError.message : AdapterError → String
  | .zone error => error.message
  | .time error => error.message

/-- An instant that a clock shows, in nanoseconds of universal time from the start of the year 1, and
whether it is given finer than in microseconds. -/
structure Instant where
  nanos : Int
  isFine : Bool

/-! ## Adapters -/

section

variable [ZoneDatabase]

def Moment.adapter (now : Instant) : Adapter TimeUnit Moment ZoneRef AdapterError where
  clock context := do
    let zone ← context.timezone.zone.mapError .zone
    (Moment.ofInstant? zone (now.nanos / 1000)).mapError .time
  add unit v amount _ := (Moment.add unit v amount).mapError .time
  round unit direction v _ := (Moment.round unit direction v).mapError .time
  isAfter v w := w.wall < v.wall

def Stamp.adapter (now : Instant) : Adapter TimeUnit Stamp ZoneRef AdapterError where
  clock context := do
    let zone ← context.timezone.zoneForStamp.mapError .zone
    (Stamp.ofCount? now.isFine (some zone) now.nanos).mapError .time
  add unit v amount _ := (Stamp.add unit v amount).mapError .time
  round unit direction v _ := (Stamp.round unit direction v).mapError .time
  isAfter v w := w.count < v.count

end

/-! ## Choosing an adapter -/

/-- The choice between moments and stamps. -/
inductive TimeKind where
  | moment
  | stamp
  deriving DecidableEq

def TimeKind.name : TimeKind → String
  | .moment => "datetime"
  | .stamp => "pandas"

def TimeKind.all : List TimeKind := [.moment, .stamp]

def TimeKind.ofName? (name : String) : Option TimeKind :=
  TimeKind.all.find? (·.name = name)

def TimeKind.unknownMessage (name : String) : String :=
  "unknown adapter: " ++ Text.quoted name

/-! ## The default configuration -/

def UnitTable.timeUnits : UnitTable TimeUnit :=
  UnitTable.ofEntries (TimeUnit.all.map fun unit => (unit.code, unit))

/-- The configuration with all units under their own codes and the keyword `now`. -/
def Config.default (timezone : ZoneRef) : Config TimeUnit ZoneRef where
  units := .timeUnits
  timezone := timezone
  keywords := ["now"]

end RelativeTime
