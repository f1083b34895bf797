import RelativeTime.Proofs.Unit.Periods
import RelativeTime.Proofs.Zone.Readings
import RelativeTime.Stamp.Arithmetic

/-!
# Stamps read off the wall

A stamp is an instant already, and an operation on stamps that succeeds returns exactly one: elapsed
time is added to the count, and whatever is found on the wall clock is read back by
`Stamp.instantOf`. Each operation is opened once here (`Stamp.eq_of_clockFloor` and the like); what is
left to say of it elsewhere is how a wall time is read, and that depends on whether the zone shows it
once, twice or never.
-/

namespace RelativeTime

namespace Stamp

variable {zone : Zone} {v w : Stamp} {isFine isFirst : Bool} {delta amount t u wall : Int}

/-- The coarse stamp in the zone at a second since 1970. -/
def atSecond (zone : Zone) (second : Int) : Stamp :=
  ⟨(epoch1970 + second) * perSecond, false, some zone⟩

/-! ## What operations return -/

theorem check_eq_ok_iff {t' : Int} : check isFine t = .ok t' ↔ InRange isFine t ∧ t' = t := by
  unfold check
  split
  case isTrue inRange => simp only [Except.ok.injEq, inRange, true_and, eq_comm]
  case isFalse outside => simp only [outside, reduceCtorEq, false_and]

theorem eq_of_ofCount? {zone? : Option Zone} (result : ofCount? isFine zone? t = .ok v) :
    v = ⟨t, isFine, zone?⟩ := by
  obtain ⟨count, checked, shown⟩ := bind_eq_ok_iff.mp result
  obtain ⟨-, rfl⟩ := check_eq_ok_iff.mp checked
  obtain ⟨_, -, returned⟩ := bind_eq_ok_iff.mp shown
  exact (Except.ok.inj returned).symm

theorem eq_of_elapse (result : v.elapse delta = .ok w) : w = ⟨v.count + delta, v.isFine, v.zone⟩ :=
  eq_of_ofCount? result

theorem eq_of_justBefore (result : v.justBefore = .ok w) : w = ⟨v.count - 1, true, v.zone⟩ :=
  eq_of_elapse result

theorem eq_of_onWallClock {f : Int → Except TimeError Int} (inZone : v.zone = some zone)
    (result : v.onWallClock f = .ok w) :
    ∃ wall, f v.wall = .ok wall ∧
      w = ⟨instantOf zone wall v.period.isDst, v.isFine, some zone⟩ := by
  obtain ⟨wall, computed, checked⟩ := bind_eq_ok_iff.mp result
  obtain ⟨_, inRange, read⟩ := bind_eq_ok_iff.mp checked
  obtain ⟨-, rfl⟩ := check_eq_ok_iff.mp inRange
  simp only [inZone] at read
  exact ⟨_, computed, eq_of_ofCount? read⟩

theorem eq_of_clockAdd {unit : ClockUnit} (result : clockAdd unit v amount = .ok w) :
    w = ⟨v.count + amount * nanos unit, v.isFine, v.zone⟩ := by
  rw [clockAdd] at result
  split at result
  · contradiction
  · exact eq_of_elapse result

/-- The period after the one that starts with the first day of a period is the next one. -/
theorem next_floor (unit : CalendarUnit) (wall : Int) :
    unit.next (unit.floor (wall / perDay) * perDay / perDay) = unit.next (wall / perDay) := by
  have day : unit.floor (wall / perDay) * perDay / perDay = unit.floor (wall / perDay) :=
    Int.mul_ediv_cancel _ (by decide)
  rw [day, CalendarUnit.next, CalendarUnit.floor, unit.index_start, CalendarUnit.next]

section

variable (inZone : v.zone = some zone)
include inZone

theorem eq_of_clockFloor {unit : ClockUnit} (result : clockFloor unit v = .ok w) :
    w = ⟨instantOf zone (v.wall - v.wall % nanos unit) v.period.isDst, v.isFine, some zone⟩ := by
  obtain ⟨_, floored, read⟩ := eq_of_onWallClock inZone result
  obtain rfl := Except.ok.inj floored
  exact read

theorem eq_of_clockCeil {unit : ClockUnit} (result : clockCeil unit v = .ok w) :
    ∃ start, clockFloor unit v = .ok start ∧
      w = ⟨start.count + nanos unit - 1, true, some zone⟩ := by
  obtain ⟨start, floored, elapsed⟩ := bind_eq_ok_iff.mp result
  obtain ⟨next, reached, before⟩ := bind_eq_ok_iff.mp elapsed
  obtain rfl := eq_of_elapse reached
  refine ⟨start, floored, ?_⟩
  rw [eq_of_justBefore before, eq_of_clockFloor inZone floored]

theorem eq_of_calendarAdd {unit : CalendarUnit} (result : calendarAdd unit v amount = .ok w) :
    w = ⟨instantOf zone (unit.shift amount (v.wall / perDay) * perDay + v.wall % perDay)
      v.period.isDst, v.isFine, some zone⟩ := by
  obtain ⟨_, moved, read⟩ := eq_of_onWallClock inZone result
  obtain ⟨d, shifted, returned⟩ := bind_eq_ok_iff.mp moved
  obtain rfl := CalendarUnit.eq_of_shift?_eq_ok shifted
  obtain rfl := Except.ok.inj returned
  exact read

theorem eq_of_calendarFloor {unit : CalendarUnit} (result : calendarFloor unit v = .ok w) :
    w = ⟨instantOf zone (unit.floor (v.wall / perDay) * perDay) v.period.isDst, v.isFine,
      some zone⟩ := by
  obtain ⟨_, floored, read⟩ := eq_of_onWallClock inZone result
  obtain ⟨-, rfl⟩ := check_eq_ok_iff.mp floored
  exact read

theorem eq_of_calendarCeil {unit : CalendarUnit} (result : calendarCeil unit v = .ok w) :
    w = ⟨instantOf zone (unit.next (v.wall / perDay) * perDay) v.period.isDst - 1, true,
      some zone⟩ := by
  obtain ⟨next, found, before⟩ := bind_eq_ok_iff.mp result
  obtain ⟨_, moved, read⟩ := eq_of_onWallClock inZone found
  obtain ⟨start, floored, following⟩ := bind_eq_ok_iff.mp moved
  obtain ⟨-, rfl⟩ := check_eq_ok_iff.mp floored
  obtain ⟨d, followed, returned⟩ := bind_eq_ok_iff.mp following
  obtain rfl := CalendarUnit.eq_of_next?_eq_ok followed
  obtain rfl := Except.ok.inj returned
  rw [next_floor] at read
  rw [eq_of_justBefore before, read]

/-- What is added leaves a stamp in its zone and as fine as it was. -/
theorem keeps_of_add {unit : TimeUnit} (added : add unit v amount = .ok w) :
    w.zone = some zone ∧ w.isFine = v.isFine := by
  cases unit with
  | clock unit =>
    rw [eq_of_clockAdd added]
    exact ⟨inZone, rfl⟩
  | calendar unit =>
    rw [eq_of_calendarAdd inZone added]
    exact ⟨rfl, rfl⟩

/-- Rounding down leaves a stamp in its zone and as fine as it was. -/
theorem keeps_of_round_down {unit : TimeUnit} (rounded : round unit .down v = .ok w) :
    w.zone = some zone ∧ w.isFine = v.isFine := by
  cases unit with
  | clock unit =>
    rw [eq_of_clockFloor inZone rounded]
    exact ⟨rfl, rfl⟩
  | calendar unit =>
    rw [eq_of_calendarFloor inZone rounded]
    exact ⟨rfl, rfl⟩

end

/-! ## The wall clock -/

theorem wall_eq (inZone : v.zone = some zone) :
    v.wall = v.count + zone.offsetAt (v.count / perSecond) * perSecond := by
  rw [wall, period, inZone]
  rfl

theorem offset_eq (inZone : v.zone = some zone) :
    v.period.offset.seconds = zone.offsetAt (v.count / perSecond) := by
  rw [period, inZone]
  rfl

theorem wall_div (inZone : v.zone = some zone) : v.wall / perSecond =
    v.count / perSecond + zone.offsetAt (v.count / perSecond) := by
  rw [wall_eq inZone]
  simp only [perSecond]
  omega

/-! ## Reading a wall time -/

theorem offsetAt_of_shows {offset : Int} (shows : zone.Shows (wall / perSecond) offset) :
    zone.offsetAt ((wall - offset * perSecond) / perSecond) = offset := by
  have second : (wall - offset * perSecond) / perSecond = wall / perSecond - offset := by
    simp only [perSecond]
    omega
  rw [second]
  exact shows

theorem instantOf_of_reading_once {offset : Int}
    (once : zone.reading (wall / perSecond) = .once offset) :
    instantOf zone wall isFirst = wall - offset * perSecond := by
  simp only [instantOf, once]

theorem instantOf_of_repeats (spaced : zone.Spaced) (repeats : zone.Repeats t (wall / perSecond)) :
    instantOf zone wall isFirst =
      wall - zone.offsetAt (if isFirst then t - 1 else t) * perSecond := by
  simp only [instantOf, spaced.reading_of_repeats repeats]
  cases isFirst <;> rfl

theorem instantOf_of_skips (spaced : zone.Spaced) (skips : zone.Skips t (wall / perSecond)) :
    instantOf zone wall isFirst = t * perSecond := by
  simp only [instantOf, spaced.reading_of_skips skips, spaced.skipSecond_of_skips skips]

end Stamp

end RelativeTime
