import RelativeTime.Zone.YearlyRule

/-!
# Time zones

A time zone says which period is in force at every second of universal time, counted like the days
of the calendar from the start of the year 1. It is stored as a list of dated changes with the
period before the first of them and a yearly rule that takes over after the last one, but
everything that reads a zone reads `Zone.periodAt`.
-/

namespace RelativeTime

/-- From second `instant` of universal time on, `period` is in force. -/
structure Change where
  instant : Int
  period : Period
  deriving DecidableEq

/-- The dated changes of a clock in ascending order, the offset before the first one, and the rule
that holds after the last one. Universal time itself is told apart from other clocks that show it: there
is nothing to convert a time of it to. -/
structure Zone where
  base : UtcOffset
  changes : List Change
  rule : Option YearlyRule
  isUniversal : Bool := false
  universal_shown : isUniversal = true → base = .zero ∧ changes = [] ∧ rule = none := by nofun
  deriving DecidableEq

namespace Zone

/-- What the dated changes say at second `u`: the last one that is not after `u`. -/
def tablePeriodAt (zone : Zone) (u : Int) : Period :=
  match (zone.changes.takeWhile (·.instant ≤ u)).getLast? with
  | some change => change.period
  | none => ⟨zone.base, false⟩

/-- The period in force at second `u` of universal time. The yearly rule applies strictly after the
last dated change, and always if there is none. -/
def periodAt (zone : Zone) (u : Int) : Period :=
  match zone.rule with
  | some rule =>
    if zone.changes.all (·.instant < u) then rule.periodAt u else zone.tablePeriodAt u
  | none => zone.tablePeriodAt u

def offsetAt (zone : Zone) (u : Int) : Int :=
  (zone.periodAt u).offset.seconds

theorem lower_offsetAt (zone : Zone) (u : Int) : -86400 < zone.offsetAt u :=
  (zone.periodAt u).offset.lower

theorem offsetAt_upper (zone : Zone) (u : Int) : zone.offsetAt u < 86400 :=
  (zone.periodAt u).offset.upper

def fixed (offset : UtcOffset) : Zone :=
  { base := offset, changes := [], rule := none }

/-- The clock of the zone whose offset is always zero. -/
def utc : Zone := fixed .zero

/-- Universal time itself. -/
def universal : Zone where
  base := .zero
  changes := []
  rule := none
  isUniversal := true
  universal_shown _ := ⟨rfl, rfl, rfl⟩

@[simp] theorem periodAt_fixed (offset : UtcOffset) (u : Int) :
    (fixed offset).periodAt u = ⟨offset, false⟩ := rfl

@[simp] theorem offsetAt_fixed (offset : UtcOffset) (u : Int) :
    (fixed offset).offsetAt u = offset.seconds := rfl

@[simp] theorem isUniversal_fixed (offset : UtcOffset) : (fixed offset).isUniversal = false := rfl

/-- Universal time has no offset at any time. -/
theorem offsetAt_of_isUniversal {zone : Zone} (universal : zone.isUniversal = true) (u : Int) :
    zone.offsetAt u = 0 := by
  obtain ⟨base, changes, rule⟩ := zone.universal_shown universal
  rw [offsetAt, periodAt, rule, tablePeriodAt, changes, base]
  rfl

end Zone

/-! ## Plain descriptions -/

/-- The second at which the count of seconds since 1970 starts. -/
def epoch1970 : Int := 62135596800

theorem epoch1970_eq : epoch1970 = 86400 * Calendar.Date.toDay ⟨1970, 1, 1⟩ := by decide

/-- A zone in plain numbers and text: the first offset, the changes as seconds since 1970 with the
offset and the daylight saving mark from then on, and the written yearly rule, empty for none. -/
structure ZoneData where
  base : Int
  changes : List (Int × Int × Bool)
  rule : String

/-- The zone that the data describe, if all offsets are less than a day. -/
def Zone.ofData? (data : ZoneData) : Option Zone := do
  let base ← UtcOffset.ofSeconds? data.base
  let changes ← data.changes.mapM fun (second, seconds, isDst) => do
    let offset ← UtcOffset.ofSeconds? seconds
    return { instant := epoch1970 + second, period := { offset, isDst } : Change }
  return { base, changes, rule := YearlyRule.ofText? data.rule }

end RelativeTime
