import RelativeTime.Proofs.Moment.CalendarRounding
import RelativeTime.Proofs.Zone.Showings

/-!
# Calendar bounds around a moment

Rounding to a calendar unit looks for a midnight and takes the first reading of it. Where a change of
the clocks jumps over midnight a date is not one stretch of time, and the bound can lie on the wrong
side of the moment. It does so exactly here: down, if the first midnight of the period is skipped and
the moment comes before that midnight is made up for; up, if the midnight after the period is shown
twice and the moment comes between the change and the second showing. Of a midnight at either end of
a skipped or repeated stretch neither is true.
-/

namespace RelativeTime

namespace Moment

variable {zone : Zone} {unit : CalendarUnit} {u d : Int}

/-- A day that has been reached starts no later, or its midnight is skipped and not yet made up for. -/
theorem dayStart_le_iff_of_le_day (spaced : zone.Spaced) (reached : d ≤ (ofInstant zone u).day) :
    dayStart zone d ≤ u ↔
      ∀ t, zone.SkipsInside t (86400 * d) → 86400 * d - zone.offsetAt (t - 1) ≤ u / perSecond := by
  rw [dayStart_le_iff_firstReading_le]
  exact spaced.firstReading_le_iff_of_reached (le_day_iff.mp reached)

/-- A day that has not been reached starts later, or its midnight was shown before the clock was set
back. -/
theorem lt_dayStart_iff_of_day_lt (spaced : zone.Spaced) (notYet : (ofInstant zone u).day < d) :
    u < dayStart zone d ↔ ∀ t, zone.RepeatsInside t (86400 * d) → u / perSecond < t := by
  rw [← Int.not_le, dayStart_le_iff_firstReading_le, Int.not_le]
  refine spaced.lt_firstReading_iff_of_notYet (Int.not_le.mp fun reached => ?_)
  exact Int.not_le.mpr notYet (le_day_iff.mpr reached)

/-- Rounding down does not go past the moment, unless a change skips the first midnight of the period
from within and the moment comes before the time at which that midnight is made up for. Rounding up
does not stay behind the moment, unless a change repeats the midnight after the period from within
and the moment is not before that change. -/
theorem calendar_round_encloses_iff (spaced : zone.Spaced) (unit : CalendarUnit) (u : Int) :
    (ofInstant zone u).instant = u ∧
    (∀ start, round (.calendar unit) .down (ofInstant zone u) = .ok start →
      (start.instant ≤ u ↔ ∀ t,
        zone.SkipsInside t (86400 * unit.floor (ofInstant zone u).day) →
          86400 * unit.floor (ofInstant zone u).day - zone.offsetAt (t - 1) ≤ u / perSecond)) ∧
    (∀ stop, round (.calendar unit) .up (ofInstant zone u) = .ok stop →
      (u ≤ stop.instant ↔ ∀ t,
        zone.RepeatsInside t (86400 * unit.next (ofInstant zone u).day) → u / perSecond < t)) := by
  refine ⟨instant_ofInstant spaced u, fun start rounded => ?_, fun stop rounded => ?_⟩
  · obtain rfl := eq_of_ofInstant? ((round_down_eq zone unit u).symm.trans rounded)
    rw [instant_ofInstant spaced]
    exact dayStart_le_iff_of_le_day spaced (unit.start_index_le _)
  · obtain rfl := eq_of_round_up spaced rounded
    rw [instant_ofInstant spaced, Int.le_sub_one_iff]
    exact lt_dayStart_iff_of_day_lt spaced (unit.lt_start_index_succ _)

/-- Clocks that go from 23:30 on April 1st, 2006 to 00:30 on the next day, and from 00:01 on October
29th back to 23:01 on the day before. -/
def changesOverMidnight : Zone :=
  .ofTable ⟨-12600, by decide, by decide⟩ [
    ⟨epoch1970 + 1143946800, ⟨⟨-9000, by decide, by decide⟩, true⟩⟩,
    ⟨epoch1970 + 1162089060, ⟨⟨-12600, by decide, by decide⟩, false⟩⟩]

theorem spaced_changesOverMidnight : changesOverMidnight.Spaced :=
  Zone.spaced_ofTable (by decide)

/-- The changes are those of the table. -/
theorem eq_of_changesAt_changesOverMidnight {t : Int} (changes : changesOverMidnight.ChangesAt t) :
    t = epoch1970 + 1143946800 ∨ t = epoch1970 + 1162089060 := by
  obtain ⟨change, member, rfl⟩ := Zone.exists_mem_of_changesAt changes
  simp only [List.mem_cons, List.not_mem_nil, or_false] at member
  obtain rfl | rfl := member
  · exact .inl rfl
  · exact .inr rfl

/-- The first showing of 23:15 on October 28th lies between the bounds of its day, though the next day
begins twice. -/
theorem round_day_before_set_back :
    changesOverMidnight.Spaced ∧
      round (.calendar .day) .down
          (ofInstant changesOverMidnight ((epoch1970 + 1162086300) * perSecond)) =
        .ok (ofInstant changesOverMidnight ((epoch1970 + 1162002600) * perSecond)) ∧
      (ofInstant changesOverMidnight ((epoch1970 + 1162002600) * perSecond)).instant ≤
        (epoch1970 + 1162086300) * perSecond ∧
      round (.calendar .day) .up
          (ofInstant changesOverMidnight ((epoch1970 + 1162086300) * perSecond)) =
        .ok (ofInstant changesOverMidnight ((epoch1970 + 1162089000) * perSecond - 1)) ∧
      (epoch1970 + 1162086300) * perSecond ≤
        (ofInstant changesOverMidnight ((epoch1970 + 1162089000) * perSecond - 1)).instant := by
  have down : round (.calendar .day) .down
      (ofInstant changesOverMidnight ((epoch1970 + 1162086300) * perSecond)) =
        .ok (ofInstant changesOverMidnight ((epoch1970 + 1162002600) * perSecond)) := rfl
  have up : round (.calendar .day) .up
      (ofInstant changesOverMidnight ((epoch1970 + 1162086300) * perSecond)) =
        .ok (ofInstant changesOverMidnight ((epoch1970 + 1162089000) * perSecond - 1)) := rfl
  obtain ⟨-, downwards, upwards⟩ := calendar_round_encloses_iff spaced_changesOverMidnight .day
    ((epoch1970 + 1162086300) * perSecond)
  refine ⟨spaced_changesOverMidnight, down, (downwards _ down).mpr fun t inside => ?_, up,
    (upwards _ up).mpr fun t inside => ?_⟩
  · -- the one change that skips a midnight does so in April
    rcases eq_of_changesAt_changesOverMidnight inside.skips.changesAt with rfl | rfl
    · exact absurd inside (by unfold Zone.SkipsInside; decide)
    · exact absurd inside (by unfold Zone.SkipsInside; decide)
  · rcases eq_of_changesAt_changesOverMidnight inside.changesAt with rfl | rfl
    · exact absurd inside (by unfold Zone.RepeatsInside; decide)
    · decide

/-- The second showing of 23:15 on October 28th is rounded up to the end of the first showing of that
day, a quarter of an hour before, and 00:45 on April 2nd is rounded down to what is shown in place
of its midnight, a quarter of an hour later. -/
theorem round_day_to_wrong_side :
    (ofInstant changesOverMidnight ((epoch1970 + 1162089900) * perSecond)).wall % perDay =
        83700 * perSecond ∧
      round (.calendar .day) .up
          (ofInstant changesOverMidnight ((epoch1970 + 1162089900) * perSecond)) =
        .ok (ofInstant changesOverMidnight ((epoch1970 + 1162089000) * perSecond - 1)) ∧
      (ofInstant changesOverMidnight ((epoch1970 + 1162089000) * perSecond - 1)).instant <
        (ofInstant changesOverMidnight ((epoch1970 + 1162089900) * perSecond)).instant ∧
      (ofInstant changesOverMidnight ((epoch1970 + 1143947700) * perSecond)).wall % perDay =
        2700 * perSecond ∧
      round (.calendar .day) .down
          (ofInstant changesOverMidnight ((epoch1970 + 1143947700) * perSecond)) =
        .ok (ofInstant changesOverMidnight ((epoch1970 + 1143948600) * perSecond)) ∧
      (ofInstant changesOverMidnight ((epoch1970 + 1143947700) * perSecond)).instant <
        (ofInstant changesOverMidnight ((epoch1970 + 1143948600) * perSecond)).instant :=
  ⟨by decide, rfl, by decide, by decide, rfl, by decide⟩

end Moment

end RelativeTime
