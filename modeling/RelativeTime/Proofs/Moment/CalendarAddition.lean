import RelativeTime.Proofs.Moment.ClockRounding
import RelativeTime.Proofs.Moment.FirstReading
import RelativeTime.Proofs.Unit.Limits

/-!
# Adding calendar units

A calendar unit is added to what the wall clock shows: the date is moved and the time of day stays, and
the result is the first reading of that wall time (`Moment.eq_of_calendarAdd`). What it shows is then a
matter of the zone. A wall time that the clocks show at all is reached, at its first showing; a skipped
one is missed by the length of the stretch, always forwards and under the offset after the change.
-/

namespace RelativeTime

namespace Moment

variable {zone : Zone} {unit : CalendarUnit} {v w : Moment} {amount : Int}

/-- The wall time at which the date of a moment is day `d`. -/
def onDay (v : Moment) (d : Int) : Int :=
  d * perDay + v.timeOfDay

theorem onDay_day (v : Moment) : v.onDay v.day = v.wall := by
  simp only [onDay, day, timeOfDay, perDay, perSecond]
  omega

theorem onDay_add (v : Moment) (n : Int) : v.onDay (v.day + n) = v.wall + n * perDay := by
  rw [← v.onDay_day, onDay, onDay, Int.add_mul, Int.add_right_comm]

theorem inRange_onDay_iff (v : Moment) (d : Int) :
    InRange (v.onDay d) ↔ 0 ≤ d ∧ d < Calendar.dayLimit := by
  simp only [InRange, wallLimit, onDay, timeOfDay, perDay, perSecond]
  omega

theorem day_supported (inRange : InRange v.wall) : 0 ≤ v.day ∧ v.day < Calendar.dayLimit := by
  rwa [← v.inRange_onDay_iff, onDay_day]

theorem eq_of_calendarAdd (inZone : v.zone = some zone)
    (added : add (.calendar unit) v amount = .ok w) :
    w = ofInstant zone (firstInstant zone (v.onDay (unit.shift amount v.day))) := by
  obtain ⟨d, shifted, shown⟩ :=
    bind_eq_ok_iff.mp (show calendarAdd unit v amount = .ok w from added)
  obtain rfl := CalendarUnit.eq_of_shift?_eq_ok shifted
  rw [inZone] at shown
  exact eq_of_ofInstant? ((normalize_unmarked zone _).symm.trans shown)

/-- With nothing added the wall time is read once more, without its mark. -/
theorem calendarAdd_zero (inZone : v.zone = some zone) (inRange : InRange v.wall) :
    add (.calendar unit) v 0 = ofInstant? zone (firstInstant zone v.wall) := by
  change calendarAdd unit v 0 = _
  rw [calendarAdd, CalendarUnit.shift?_zero (day_supported inRange)]
  change normalize ⟨v.onDay v.day, false, v.zone⟩ = _
  rw [onDay_day, inZone]
  exact normalize_unmarked zone v.wall

/-- The date is moved by the unit and the time of day stays. The clock shows that wall time, for the
first time if it does so twice, or it shows what is later by the length of the stretch that is skipped,
with the offset after the change. -/
theorem calendar_add_reaches_wall_time (spaced : zone.Spaced) (unit : CalendarUnit) (amount : Int)
    {v w : Moment} (inZone : v.zone = some zone)
    (added : add (.calendar unit) v amount = .ok w) :
    ∃ d, (∀ d', unit.Shifts amount v.day d' ↔ d' = d) ∧
      w = ofInstant zone w.instant ∧
      ((∃ u, (ofInstant zone u).wall = v.onDay d) →
        w.wall = v.onDay d ∧ IsLeast {u | (ofInstant zone u).wall = v.onDay d} w.instant) ∧
      ((∀ u, (ofInstant zone u).wall ≠ v.onDay d) → ∃ t,
        zone.Skips t (v.onDay d / perSecond) ∧
          w.wall = v.onDay d + (zone.offsetAt t - zone.offsetAt (t - 1)) * perSecond ∧
          w.offset? = some (zone.offsetAt t)) := by
  -- which day is reached is a matter of the calendar alone, and the zone reads its wall time back
  obtain rfl := eq_of_calendarAdd inZone added
  refine ⟨unit.shift amount v.day, fun d' => unit.shifts_iff, ?_⟩
  rw [instant_ofInstant spaced]
  refine ⟨rfl, fun shown => ?_, fun never => ?_⟩
  · have isLeast := isLeast_firstInstant spaced shown
    exact ⟨isLeast.1, isLeast⟩
  · obtain ⟨t, skips⟩ := skipped_of_not_shown spaced never
    exact ⟨t, skips, wall_firstInstant_of_skips spaced skips,
      offset_firstInstant_of_skips spaced skips⟩

/-- 02:30 on January 31st, 2024, on the clocks of `hourChanges`. -/
def lastOfJanuary : Moment :=
  ofInstant hourChanges ((epoch1970 + 1706664600) * perSecond)

/-- Two months after January 31st, 02:30 is skipped, and the clocks show 03:30 at the new offset. -/
theorem add_months_into_skipped :
    hourChanges.Spaced ∧ lastOfJanuary.zone = some hourChanges ∧
      add (.calendar .month) lastOfJanuary 2 =
        .ok (ofInstant hourChanges ((epoch1970 + 1711848600) * perSecond)) ∧
      ∃ d, (∀ d', CalendarUnit.month.Shifts 2 lastOfJanuary.day d' ↔ d' = d) ∧ ∃ t,
        hourChanges.Skips t (lastOfJanuary.onDay d / perSecond) ∧
          (ofInstant hourChanges ((epoch1970 + 1711848600) * perSecond)).wall =
            lastOfJanuary.onDay d +
              (hourChanges.offsetAt t - hourChanges.offsetAt (t - 1)) * perSecond ∧
          (ofInstant hourChanges ((epoch1970 + 1711848600) * perSecond)).offset? =
            some (hourChanges.offsetAt t) := by
  have added : add (.calendar .month) lastOfJanuary 2 =
      .ok (ofInstant hourChanges ((epoch1970 + 1711848600) * perSecond)) := rfl
  refine ⟨spaced_hourChanges, rfl, added, ?_⟩
  obtain ⟨d, isDay, -, -, skipped⟩ :=
    calendar_add_reaches_wall_time spaced_hourChanges .month 2 rfl added
  refine ⟨d, isDay, skipped fun u shown => ?_⟩
  obtain rfl := (isDay _).mp (CalendarUnit.month.shifts_iff.mpr rfl)
  refine not_skips_of_wall_eq spaced_hourChanges shown (epoch1970 + 1711846800) ?_
  unfold Zone.Skips
  decide

end Moment

end RelativeTime
