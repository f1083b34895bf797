import RelativeTime.Proofs.Moment.CalendarAddition
import RelativeTime.Proofs.Moment.Limits

/-!
# Units in terms of other units

Sixty minutes are an hour, seven days a week and twelve months a year, in what is added as well as in what
is refused. This needs nothing of the zone, since of two such units each asks the same of it. A day is 24
hours only on a clock whose offset never changes: then what elapses in universal time and what is moved on
the wall come to the same.
-/

namespace RelativeTime

namespace CalendarUnit

theorem shift?_week (n d : Int) : week.shift? n d = day.shift? (7 * n) d := rfl

/-- Months are refused by the year that they lead to, as years are. -/
theorem shift?_year (n d : Int) : year.shift? n d = month.shift? (12 * n) d := by
  have reached : Calendar.yearIndex d + n + 1 = (Calendar.monthIndex d + 12 * n) / 12 + 1 := by
    rw [← Calendar.monthIndex_div]
    omega
  rw [shift?, checkShift, reached]
  rfl

end CalendarUnit

namespace Moment

variable {zone : Zone} {offset n : Int} {v : Moment} {error : TimeError}

/-! ## Equal amounts -/

/-- A unit of the clock is added as the time it takes. -/
theorem clockAdd_congr {unit unit' : ClockUnit} {m n : Int} (v : Moment)
    (same : m * unit.micros = n * unit'.micros) : add (.clock unit) v m = add (.clock unit') v n := by
  change clockAdd unit v m = clockAdd unit' v n
  rw [clockAdd, clockAdd, same]

theorem calendarAdd_congr {unit unit' : CalendarUnit} {m n : Int}
    (same : unit.shift? m v.day = unit'.shift? n v.day) :
    add (.calendar unit) v m = add (.calendar unit') v n := by
  change calendarAdd unit v m = calendarAdd unit' v n
  rw [calendarAdd, calendarAdd, same]

/-- Where the offset never changes 24 hours are a day. -/
theorem add_hours_eq_add_days (steady : zone.Steady offset) (inZone : v.zone = some zone)
    (inRange : InRange v.instant) (n : Int) :
    add (.clock .hour) v (24 * n) = add (.calendar .day) v n := by
  have time : 24 * n * ClockUnit.hour.micros = n * perDay := by
    simp only [ClockUnit.micros, perDay, perSecond]
    omega
  have days : n * perDay / perDay = n := Int.mul_ediv_cancel _ (by decide)
  have elapses := succeedsIf_elapse_of_steady steady inZone (n * perDay)
  rw [← instant_of_steady steady inZone, ← onDay_add] at elapses
  have moves : SucceedsIf (do
        let d ← checkDay (v.day + n)
        normalize ⟨d * perDay + v.timeOfDay, false, some zone⟩)
      (InRange v.instant ∧ InReach offset (v.onDay (v.day + n)))
      ⟨v.onDay (v.day + n), false, some zone⟩ (· = .overflow .date) := by
    refine ((succeedsIf_checkDay _).bind fun _ =>
      succeedsIf_normalize_of_steady steady _ _).congr ?_
    rw [← v.inRange_onDay_iff]
    exact (and_iff_right_of_imp And.left).trans (and_iff_right inRange).symm
  change clockAdd .hour v (24 * n) = calendarAdd .day v n
  rw [clockAdd, time, days, calendarAdd, inZone]
  -- both check the number of days first, and what comes after that has one condition and one error
  change (do checkSpan n; v.elapse (n * perDay)) = (do checkSpan n; checkDay (v.day + n)) >>= _
  rw [bind_assoc, elapses.outcome_eq moves]

/-! ## Errors -/

theorem exists_succeedsIf_elapse (v : Moment) (delta : Int) : ∃ condition value,
    SucceedsIf (v.elapse delta) condition value (· = .overflow .date) := by
  obtain ⟨wall, secondPass, zone⟩ := v
  cases zone with
  | none => exact ⟨_, _, (succeedsIf_check _).bind fun _ => succeedsIf_ok _⟩
  | some zone => exact ⟨_, _, succeedsIf_elapse rfl delta⟩

theorem exists_succeedsIf_normalize (v : Moment) : ∃ condition value,
    SucceedsIf (normalize v) condition value (· = .overflow .date) := by
  obtain ⟨wall, secondPass, zone⟩ := v
  cases zone with
  | none => exact ⟨_, _, succeedsIf_ok _⟩
  | some zone => exact ⟨_, _, succeedsIf_normalize rfl⟩

theorem isOverflow_of_clockAdd {unit : ClockUnit}
    (failed : add (.clock unit) v n = .error error) : error.IsOverflow := by
  obtain ⟨_, _, elapses⟩ := exists_succeedsIf_elapse v (n * unit.micros)
  exact ((succeedsIf_checkSpan _).bind fun _ => elapses.isOverflow).refuses_of_error failed

theorem isOverflow_of_addWeeks (failed : add (.calendar .week) v n = .error error) :
    error.IsOverflow := by
  obtain ⟨_, _, normalizes⟩ := exists_succeedsIf_normalize
    ⟨(v.day + 7 * n) * perDay + v.timeOfDay, false, v.zone⟩
  have moves := (CalendarUnit.succeedsIf_checkSpan_checkDay (.inr rfl) (7 * n) (v.day + 7 * n)).mono
    fun _ _ refuses => (CalendarUnit.refuses_of_days (.inr rfl)).mp refuses
  exact (moves.bind fun _ => normalizes.isOverflow).refuses_of_error failed

/-- Amounts of different units that are equal by their scale lead to the same moment, or both are refused
with the same error, which can only name a year if it is about months and years. -/
theorem unit_scales_cohere (v : Moment) (n : Int) :
    (add (.clock .minute) v (60 * n) = add (.clock .hour) v n ∧
      add (.clock .second) v (3600 * n) = add (.clock .hour) v n ∧
      add (.clock .millisecond) v (3600000 * n) = add (.clock .hour) v n ∧
      ∀ error, add (.clock .hour) v n = .error error → error.IsOverflow) ∧
    (add (.calendar .day) v (7 * n) = add (.calendar .week) v n ∧
      ∀ error, add (.calendar .week) v n = .error error → error.IsOverflow) ∧
    add (.calendar .month) v (12 * n) = add (.calendar .year) v n ∧
    ∀ zone offset, v.zone = some zone → zone.Steady offset → InRange v.instant →
      add (.clock .hour) v (24 * n) = add (.calendar .day) v n ∧
        ∀ error, add (.calendar .day) v n = .error error → error.IsOverflow := by
  refine ⟨⟨?_, ?_, ?_, fun error => isOverflow_of_clockAdd⟩, ⟨?_, fun error => isOverflow_of_addWeeks⟩,
    ?_, fun zone offset inZone steady inRange => ?_⟩
  · exact clockAdd_congr v (by simp only [ClockUnit.micros]; omega)
  · exact clockAdd_congr v (by simp only [ClockUnit.micros]; omega)
  · exact clockAdd_congr v (by simp only [ClockUnit.micros]; omega)
  · exact calendarAdd_congr (CalendarUnit.shift?_week n v.day).symm
  · exact calendarAdd_congr (CalendarUnit.shift?_year n v.day).symm
  · have same := add_hours_eq_add_days steady inZone inRange n
    exact ⟨same, fun error failed => isOverflow_of_clockAdd (same.trans failed)⟩

/-- The midnight that starts a date on the clocks of `fourteenAhead`. -/
def midnightOf (date : Calendar.Date) : Moment :=
  ⟨date.toDay * perDay, false, some fourteenAhead⟩

/-- From February 29th, 2024, 12 months lead to the 28th as a year does, and 96000 are refused like 8000
years. 24 hours lead to March 1st as a day does. -/
theorem add_to_leap_day :
    (midnightOf ⟨2024, 2, 29⟩).zone = some fourteenAhead ∧ fourteenAhead.Steady 50400 ∧
      InRange (midnightOf ⟨2024, 2, 29⟩).instant ∧
      add (.calendar .month) (midnightOf ⟨2024, 2, 29⟩) 12 = .ok (midnightOf ⟨2025, 2, 28⟩) ∧
      add (.calendar .month) (midnightOf ⟨2024, 2, 29⟩) 96000 = .error (.year 10024) ∧
      add (.clock .hour) (midnightOf ⟨2024, 2, 29⟩) 24 = .ok (midnightOf ⟨2024, 3, 1⟩) := by
  have inRange : InRange (midnightOf ⟨2024, 2, 29⟩).instant := by decide
  have year : add (.calendar .year) (midnightOf ⟨2024, 2, 29⟩) 1 = .ok (midnightOf ⟨2025, 2, 28⟩) := rfl
  have years : add (.calendar .year) (midnightOf ⟨2024, 2, 29⟩) 8000 = .error (.year 10024) := rfl
  have day : add (.calendar .day) (midnightOf ⟨2024, 2, 29⟩) 1 = .ok (midnightOf ⟨2024, 3, 1⟩) := rfl
  obtain ⟨-, -, months, days⟩ := unit_scales_cohere (midnightOf ⟨2024, 2, 29⟩) 1
  obtain ⟨hours, -⟩ := days _ _ rfl steady_fourteenAhead inRange
  obtain ⟨-, -, months', -⟩ := unit_scales_cohere (midnightOf ⟨2024, 2, 29⟩) 8000
  exact ⟨rfl, steady_fourteenAhead, inRange, months.trans year, months'.trans years, hours.trans day⟩

end Moment

end RelativeTime
