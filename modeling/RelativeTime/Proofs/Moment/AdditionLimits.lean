import RelativeTime.Proofs.Moment.CalendarAddition
import RelativeTime.Proofs.Moment.Limits

/-!
# Where additions end

On a clock whose offset never changes an addition fails where its exact result is out of reach, and
nowhere else. A clock unit elapses in universal time, so its starting point has to be in reach as well.
A calendar unit moves on the wall alone, and may start where universal time is not supported.
-/

namespace RelativeTime

namespace Moment

variable {zone : Zone} {offset : Int} {v : Moment}

section

variable (steady : zone.Steady offset) (inZone : v.zone = some zone) (supported : InRange v.wall)
include steady inZone supported

theorem succeedsIf_clockAdd (unit : ClockUnit) (n : Int) : SucceedsIf (add (.clock unit) v n)
    (InRange (v.wall - offset * perSecond) ∧ InReach offset (v.wall + n * unit.micros))
    ⟨v.wall + n * unit.micros, false, some zone⟩ TimeError.IsOverflow := by
  have elapses : SucceedsIf (v.elapse (n * unit.micros))
      (InRange (v.wall - offset * perSecond) ∧ InReach offset (v.wall + n * unit.micros))
      ⟨v.wall + n * unit.micros, false, some zone⟩ TimeError.IsOverflow :=
    (succeedsIf_elapse_of_steady steady inZone _).isOverflow
  refine ((succeedsIf_checkSpan _).bind fun _ => elapses).congr (and_iff_right_of_imp ?_)
  -- from one supported wall time to another it is never too long
  rintro ⟨-, reached, -⟩
  simp only [InRange, wallLimit, Calendar.dayLimit_eq, perDay, perSecond] at supported reached ⊢
  omega

theorem succeedsIf_calendarAdd (unit : CalendarUnit) (n : Int) :
    SucceedsIf (add (.calendar unit) v n) (InReach offset (v.onDay (unit.shift n v.day)))
      ⟨v.onDay (unit.shift n v.day), false, some zone⟩ (unit.Refuses (unit.shift n v.day)) := by
  have moved := CalendarUnit.succeedsIf_shift? (day_supported supported) unit n
  rw [← v.inRange_onDay_iff] at moved
  refine (moved.bind fun inRange => ?_).congr (and_iff_right_of_imp And.left)
  rw [inZone]
  have inYears := (v.inRange_onDay_iff _).mp inRange
  exact (succeedsIf_normalize_of_steady steady _ _).isOverflow.mono fun error _ =>
    (CalendarUnit.refuses_of_supported inYears).mpr

end

/-- An addition returns its exact result, or fails. A clock unit fails if universal time is out of the
supported years at the start, or the result or its universal time is. A calendar unit fails if the
result or its universal time is, with an error that names the year if months or years lead out of the
supported ones. -/
theorem additions_fail_at_limits {zone : Zone} {offset : Int} (steady : zone.Steady offset) {v : Moment}
    (inZone : v.zone = some zone) (supported : InRange v.wall) (n : Int) :
    (∀ unit : ClockUnit, SucceedsIf (add (.clock unit) v n)
      (InRange (v.wall - offset * perSecond) ∧ InReach offset (v.wall + n * unit.micros))
      ⟨v.wall + n * unit.micros, false, some zone⟩ TimeError.IsOverflow) ∧
    (∀ unit : CalendarUnit, ∃ d, (∀ d', unit.Shifts n v.day d' ↔ d' = d) ∧
      SucceedsIf (add (.calendar unit) v n) (InReach offset (v.onDay d))
        ⟨v.onDay d, false, some zone⟩ (unit.Refuses d)) := by
  constructor
  · intro unit
    exact succeedsIf_clockAdd steady inZone supported unit n
  · intro unit
    exact ⟨unit.shift n v.day, fun d' => unit.shifts_iff,
      succeedsIf_calendarAdd steady inZone supported unit n⟩

/-- 02:00 on January 1st of the year 1 on the clocks of `fourteenAhead`. Universal time has not begun
then. -/
def firstMorning : Moment :=
  ⟨7200 * perSecond, false, some fourteenAhead⟩

/-- From the first morning it is a day to the second, but 24 hours cannot elapse. The year before is
refused by its number. -/
theorem add_to_first_morning :
    fourteenAhead.Steady 50400 ∧ firstMorning.zone = some fourteenAhead ∧
      InRange firstMorning.wall ∧
      add (.calendar .day) firstMorning 1 = .ok ⟨93600 * perSecond, false, some fourteenAhead⟩ ∧
      (∃ error, add (.clock .hour) firstMorning 24 = .error error ∧ error.IsOverflow) ∧
      ∃ error, add (.calendar .year) firstMorning (-1) = .error error ∧ error.NamesYear 0 := by
  have inRange : InRange firstMorning.wall := by decide
  obtain ⟨-, byDays⟩ := additions_fail_at_limits steady_fourteenAhead rfl inRange 1
  obtain ⟨second, isSecond, succeeds⟩ := byDays .day
  obtain rfl := (isSecond 1).mp rfl
  obtain ⟨byHours, -⟩ := additions_fail_at_limits steady_fourteenAhead rfl inRange 24
  obtain ⟨-, byYears⟩ := additions_fail_at_limits steady_fourteenAhead rfl inRange (-1)
  obtain ⟨before, isBefore, fails⟩ := byYears .year
  obtain rfl := (isBefore (-366)).mp (by unfold CalendarUnit.Shifts; decide)
  obtain ⟨error, refused, named, -⟩ := fails.refusal (by decide)
  exact ⟨steady_fourteenAhead, rfl, inRange, succeeds.success (by decide),
    (byHours .hour).refusal (by decide), error, refused, named (by decide)⟩

end Moment

end RelativeTime
