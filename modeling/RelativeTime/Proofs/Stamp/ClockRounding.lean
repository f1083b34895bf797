import RelativeTime.Proofs.Moment.ClockRounding
import RelativeTime.Proofs.Stamp.WallReading
import RelativeTime.Proofs.Zone.HourlyChanges

/-!
# Rounding stamps to clock periods

A stamp carries no mark for a second showing. When its wall time is rounded down and the result is shown
twice, daylight saving time decides which showing is meant: the first if it is in force at the stamp, and
the second otherwise. In a zone whose changes are by an hour everything that rounding to a clock unit can
reach lies in the hour of the stamp (`Zone.ChangesByHours.shows_of_hour_eq`), so the showing is kept, and
with it the offset and the order of time, exactly if daylight saving time tells the two showings of that
hour apart in this way.
-/

namespace RelativeTime

namespace Stamp

/-- If the clock shows twice what it shows at the stamp, daylight saving time is in force at the stamp
exactly if this is the first time. -/
def DstMarksFirst (zone : Zone) (v : Stamp) : Prop :=
  ∀ t, zone.Repeats t (v.wall / perSecond) → (v.period.isDst = true ↔ v.count / perSecond < t)

variable {zone : Zone} {unit : ClockUnit} {v start stop : Stamp} {t wall : Int}

theorem floor_bounds (unit : ClockUnit) (wall : Int) :
    0 ≤ wall % nanos unit ∧ wall % nanos unit < nanos unit ∧ nanos unit ≤ 3600 * perSecond := by
  have positive : 0 < nanos unit := by cases unit <;> decide
  refine ⟨Int.emod_nonneg _ (Int.ne_of_gt positive), Int.emod_lt_of_pos _ positive, ?_⟩
  cases unit <;> decide

/-- A clock unit goes into an hour, so rounding down stays in the hour. -/
theorem hour_floor (unit : ClockUnit) (wall : Int) :
    (wall - wall % nanos unit) / perSecond / 3600 = wall / perSecond / 3600 := by
  cases unit <;> simp only [nanos, ClockUnit.micros, perSecond] <;> omega

section

variable (spaced : zone.Spaced) (hourly : zone.ChangesByHours) (inZone : v.zone = some zone)
include spaced hourly inZone

theorem floor_of_not_repeats (unrepeated : ∀ t, ¬ zone.Repeats t (v.wall / perSecond))
    (floored : clockFloor unit v = .ok start) :
    start.count = v.count - v.wall % nanos unit ∧
      start.period.offset.seconds = v.period.offset.seconds := by
  have sameHour := hour_floor unit v.wall
  have shows := hourly.shows_of_hour_eq spaced (wall_div inZone).symm sameHour
  have once := spaced.shownOnce_of_not_repeats shows.shown fun t repeats =>
    unrepeated t (hourly.repeats_of_hour_eq repeats sameHour.symm)
  have reading := spaced.readsBack.reading_of_shows once shows
  rw [eq_of_clockFloor inZone floored, instantOf_of_reading_once reading, offset_eq inZone,
    offset_eq rfl, offsetAt_of_shows shows]
  have wall := wall_eq inZone
  exact ⟨by simp only; omega, rfl⟩

theorem floor_of_repeats (repeats : zone.Repeats t (v.wall / perSecond))
    (floored : clockFloor unit v = .ok start) :
    start.count = v.wall - v.wall % nanos unit -
        zone.offsetAt (if v.period.isDst then t - 1 else t) * perSecond ∧
      start.period.offset.seconds = zone.offsetAt (if v.period.isDst then t - 1 else t) := by
  have repeats' := hourly.repeats_of_hour_eq repeats (hour_floor unit v.wall)
  obtain ⟨-, showsFirst, showsSecond⟩ :=
    Zone.shows_of_reading_twice (spaced.reading_of_repeats repeats')
  rw [eq_of_clockFloor inZone floored, instantOf_of_repeats spaced repeats', offset_eq rfl]
  refine ⟨rfl, offsetAt_of_shows ?_⟩
  cases v.period.isDst
  · exact showsSecond
  · exact showsFirst

/-- Rounding down takes off what the wall clock shows beyond whole units, or it comes to the other
showing of the hour, which is an hour off. -/
theorem floor_cases (floored : clockFloor unit v = .ok start) :
    (DstMarksFirst zone v ∧ start.period.offset.seconds = v.period.offset.seconds ∧
        start.count = v.count - v.wall % nanos unit) ∨
      (¬ DstMarksFirst zone v ∧ start.period.offset.seconds ≠ v.period.offset.seconds ∧
        (start.count = v.count - v.wall % nanos unit + 3600 * perSecond ∨
          start.count = v.count - v.wall % nanos unit - 3600 * perSecond)) := by
  by_cases unrepeated : ∀ t, ¬ zone.Repeats t (v.wall / perSecond)
  · obtain ⟨count, offset⟩ := floor_of_not_repeats spaced hourly inZone unrepeated floored
    exact .inl ⟨fun t repeats => absurd repeats (unrepeated t), offset, count⟩
  · obtain ⟨t, repeats⟩ := not_forall_not.mp unrepeated
    obtain ⟨count, offset⟩ := floor_of_repeats spaced hourly inZone repeats floored
    have byHour := hourly.offsetAt_of_repeats repeats
    have showing := spaced.offsetAt_of_repeats repeats (wall_div inZone).symm
    have wall := wall_eq inZone
    have marks : DstMarksFirst zone v ↔ (v.period.isDst = true ↔ v.count / perSecond < t) := by
      refine ⟨fun marked => marked t repeats, fun marked t' repeats' => ?_⟩
      rwa [← spaced.eq_of_repeats repeats repeats']
    rw [marks, offset, count, offset_eq inZone, showing]
    rw [showing] at wall
    simp only [perSecond] at wall ⊢
    -- the stamp is the first or the second showing, and it is taken for the first or the second
    cases v.period.isDst <;> by_cases first : v.count / 1000000000 < t <;>
      simp only [first, if_true, if_false, Bool.false_eq_true, iff_true, iff_false, iff_self,
        not_true_eq_false, not_false_eq_true, ne_eq, true_and, false_and, false_or,
        or_false] at wall ⊢ <;> omega

end

/-- Rounding to a clock unit keeps the offset of a stamp, and its bounds enclose the stamp, exactly if
daylight saving time marks the first showing of what the clock shows there, where there are two. -/
theorem clock_round_encloses_iff (spaced : zone.Spaced) (hourly : zone.ChangesByHours)
    (unit : ClockUnit) {v start stop : Stamp} (inZone : v.zone = some zone)
    (down : round (.clock unit) .down v = .ok start) (up : round (.clock unit) .up v = .ok stop) :
    (start.period.offset.seconds = v.period.offset.seconds ↔ DstMarksFirst zone v) ∧
      (start.count ≤ v.count ∧ v.count ≤ stop.count ↔ DstMarksFirst zone v) ∧
      stop.count = start.count + nanos unit - 1 ∧
      (DstMarksFirst zone v → start.count = v.count - v.wall % nanos unit) := by
  have length : stop.count = start.count + nanos unit - 1 := by
    obtain ⟨_, floored, rfl⟩ := eq_of_clockCeil inZone up
    obtain rfl := Except.ok.inj (down.symm.trans floored)
    rfl
  obtain ⟨lower, upper, short⟩ := floor_bounds unit v.wall
  rcases floor_cases spaced hourly inZone down with ⟨marked, offset, count⟩ | ⟨unmarked, offset, count⟩
  · refine ⟨iff_of_true offset marked, iff_of_true ?_ marked, length, fun _ => count⟩
    omega
  · refine ⟨iff_of_false offset unmarked, iff_of_false ?_ unmarked, length,
      fun marked => absurd marked unmarked⟩
    omega

theorem changesByHours_hourChanges : Moment.hourChanges.ChangesByHours :=
  Zone.changesByHours_ofTable (by decide)

/-- The second showing of 02:45, in winter, is rounded within the second showing of its hour. -/
theorem round_stamp_second_pass :
    Moment.hourChanges.Spaced ∧ Moment.hourChanges.ChangesByHours ∧
      Moment.hourChanges.Repeats (epoch1970 + 1729990800)
        ((atSecond Moment.hourChanges 1729993500).wall / perSecond) ∧
      round (.clock .hour) .down (atSecond Moment.hourChanges 1729993500) =
        .ok (atSecond Moment.hourChanges 1729990800) ∧
      round (.clock .hour) .up (atSecond Moment.hourChanges 1729993500) =
        .ok ⟨(epoch1970 + 1729994400) * perSecond - 1, true, some Moment.hourChanges⟩ ∧
      DstMarksFirst Moment.hourChanges (atSecond Moment.hourChanges 1729993500) ∧
      (atSecond Moment.hourChanges 1729990800).count =
        (atSecond Moment.hourChanges 1729993500).count -
          (atSecond Moment.hourChanges 1729993500).wall % nanos .hour := by
  have down : round (.clock .hour) .down (atSecond Moment.hourChanges 1729993500) =
      .ok (atSecond Moment.hourChanges 1729990800) := rfl
  have up : round (.clock .hour) .up (atSecond Moment.hourChanges 1729993500) =
      .ok ⟨(epoch1970 + 1729994400) * perSecond - 1, true, some Moment.hourChanges⟩ := rfl
  obtain ⟨sameOffset, -, -, count⟩ := clock_round_encloses_iff Moment.spaced_hourChanges
    changesByHours_hourChanges .hour rfl down up
  have marked := sameOffset.mp (by decide)
  exact ⟨Moment.spaced_hourChanges, changesByHours_hourChanges, ⟨by decide, by decide⟩, down, up,
    marked, count marked⟩

/-- Clocks that go from 01:00 to 02:00 on March 29th, 2020 and from 02:00 back to 01:00 on October 25th,
where it is the time in winter that counts as daylight saving time. -/
def winterSaving : Zone :=
  .ofTable .zero [
    ⟨epoch1970 + 1585443600, ⟨(UtcOffset.ofSeconds? 3600).getD .zero, false⟩⟩,
    ⟨epoch1970 + 1603587600, ⟨.zero, true⟩⟩]

/-- The first showing of 01:40 on October 25th, 2020 is rounded down to the second showing of 01:00, which
comes later. -/
theorem round_winter_saving_first_pass :
    winterSaving.Spaced ∧ winterSaving.ChangesByHours ∧
      winterSaving.Repeats (epoch1970 + 1603587600)
        ((atSecond winterSaving 1603586400).wall / perSecond) ∧
      winterSaving.Repeats (epoch1970 + 1603587600)
        ((atSecond winterSaving 1603587600).wall / perSecond) ∧
      round (.clock .hour) .down (atSecond winterSaving 1603586400) =
        .ok (atSecond winterSaving 1603587600) ∧
      round (.clock .hour) .up (atSecond winterSaving 1603586400) =
        .ok ⟨(epoch1970 + 1603591200) * perSecond - 1, true, some winterSaving⟩ ∧
      (atSecond winterSaving 1603587600).period.offset ≠
        (atSecond winterSaving 1603586400).period.offset ∧
      (atSecond winterSaving 1603586400).count < (atSecond winterSaving 1603587600).count := by
  exact ⟨Zone.spaced_ofTable (by decide), Zone.changesByHours_ofTable (by decide),
    ⟨by decide, by decide⟩, ⟨by decide, by decide⟩, rfl, rfl, by decide, by decide⟩

end Stamp

end RelativeTime
