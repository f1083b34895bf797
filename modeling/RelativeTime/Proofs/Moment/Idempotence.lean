import RelativeTime.Proofs.Moment.CalendarRounding
import RelativeTime.Proofs.Moment.ClockRounding

/-!
# Rounding twice

The result of rounding is rounded to itself, unless a change of the clocks comes in between. What
must not happen depends on the unit and on the direction (`Zone.Suits`): down to a calendar period
nothing can go wrong, and in every other case a boundary of the period can fall into a stretch that
is skipped or repeated and be shown somewhere else, where the second rounding finds another period.
-/

namespace RelativeTime

/-- The changes of the zone leave the boundaries of periods where rounding needs them. Up to a calendar
period no midnight lies strictly within a skipped stretch; down to a clock unit every skipped stretch
is shorter than the unit or lasts for whole units; up to a clock unit changes happen at whole units. -/
def Zone.Suits (zone : Zone) : TimeUnit → Direction → Prop
  | .calendar _, .down => True
  | .calendar _, .up => ∀ t d : Int, ¬ zone.SkipsInside t (86400 * d)
  | .clock unit, .down => ∀ t : Int, zone.offsetAt (t - 1) < zone.offsetAt t →
      (zone.offsetAt t - zone.offsetAt (t - 1)) * Moment.perSecond < unit.micros ∨
        unit.micros ∣ (zone.offsetAt t - zone.offsetAt (t - 1)) * Moment.perSecond
  | .clock unit, .up => zone.AlignedTo unit

namespace Moment

variable {zone : Zone} {u d : Int} {once : Moment}

/-! ## Calendar units -/

/-- A day starts on its date, or at the midnight of the next if all of it is skipped. -/
theorem day_dayStart (spaced : zone.Spaced) (d : Int) :
    (ofInstant zone (dayStart zone d)).day = d ∨
      (ofInstant zone (dayStart zone d)).day = d + 1 ∧ dayStart zone (d + 1) = dayStart zone d := by
  have second : dayStart zone d / perSecond = zone.firstReading (86400 * d) := by
    simp only [dayStart, perSecond]
    omega
  have lower : d ≤ (ofInstant zone (dayStart zone d)).day ↔ _ := le_day_iff
  have upper : d + 1 ≤ (ofInstant zone (dayStart zone d)).day ↔ _ := le_day_iff
  have later : d + 1 + 1 ≤ (ofInstant zone (dayStart zone d)).day ↔ _ := le_day_iff
  rw [second] at lower upper later
  rcases spaced.shows_or_skips (86400 * d) false with shows | ⟨t, skips⟩
  · have shown : zone.offsetAt (zone.firstReading (86400 * d)) = _ := shows
    have reading : zone.firstReading (86400 * d) = 86400 * d - _ := rfl
    left
    omega
  · obtain ⟨late, offset, reading⟩ := spaced.offsetAt_firstReading_of_skips skips
    have small := spaced.small t
    obtain ⟨reached, notYet⟩ := skips
    -- a skipped midnight takes all of its day with it only where clocks go forward by a day
    by_cases whole : zone.offsetAt t - zone.offsetAt (t - 1) = 86400
    · refine .inr ⟨by omega, ?_⟩
      have first := spaced.firstReading_shown (spaced.isSecondPass_firstReading (86400 * d))
      have midnight : zone.firstReading (86400 * d) +
          zone.offsetAt (zone.firstReading (86400 * d)) = 86400 * (d + 1) := by
        omega
      rw [midnight] at first
      rw [dayStart, dayStart, first]
    · left
      omega

theorem calendarFloor_calendarFloor (spaced : zone.Spaced) {unit : CalendarUnit}
    (rounded : round (.calendar unit) .down (ofInstant zone u) = .ok once) :
    round (.calendar unit) .down once = .ok once := by
  rw [round_down_eq] at rounded
  obtain rfl := eq_of_ofInstant? rounded
  rw [round_down_eq, ← rounded]
  have same : dayStart zone (unit.start (localPeriod zone unit
      (dayStart zone (unit.start (localPeriod zone unit u))))) =
        dayStart zone (unit.start (localPeriod zone unit u)) := by
    generalize localPeriod zone unit u = k
    rw [localPeriod]
    rcases day_dayStart spaced (unit.start k) with same | ⟨next, start⟩
    · rw [same, unit.index_start]
    · -- the day after the first of the period is in the period, or it is the first of the next
      have begun : k ≤ unit.index (unit.start k + 1) := unit.start_le_iff.mp (by omega)
      have lower := unit.start_le_start begun
      have upper := unit.start_index_le (unit.start k + 1)
      rw [next]
      rcases Int.lt_or_eq_of_le lower with later | same
      · rw [show unit.start (unit.index (unit.start k + 1)) = unit.start k + 1 by omega, start]
      · rw [← same]
  rw [same]

/-- Just before the first midnight of the next period the period of the moment still lasts. -/
theorem calendarCeil_calendarCeil (spaced : zone.Spaced) {unit : CalendarUnit}
    (whole : ∀ t d : Int, ¬ zone.SkipsInside t (86400 * d))
    (rounded : round (.calendar unit) .up (ofInstant zone u) = .ok once) :
    round (.calendar unit) .up once = .ok once := by
  obtain rfl := eq_of_round_up spaced rounded
  refine (round_eq_of_localPeriod_eq ?_ .up).trans rounded
  obtain ⟨begun, notEnded⟩ := unit.index_eq_iff.mp (rfl : localPeriod zone unit u = _)
  have second : (dayStart zone (unit.start (localPeriod zone unit u + 1)) - 1) / perSecond =
      zone.firstReading (86400 * unit.start (localPeriod zone unit u + 1)) - 1 := by
    simp only [dayStart, perSecond]
    omega
  refine unit.index_eq_iff.mpr ⟨?_, Int.not_le.mp fun reached => ?_⟩
  · -- once reached, the first day of the period stays reached up to the end of the period
    rw [le_day_iff, second]
    refine spaced.le_before_firstReading (le_day_iff.mp begun) ?_ (by omega)
    exact Int.not_le.mp fun reached => Int.not_le.mpr notEnded (le_day_iff.mpr reached)
  · rw [le_day_iff, second] at reached
    have := spaced.firstReading_le (fun t => whole t _) reached
    omega

/-! ## Clock units -/

/-- A moment at whole units is its own floor. -/
theorem clockFloor_of_dvd (spaced : zone.Spaced) {unit : ClockUnit}
    (whole : unit.micros ∣ (ofInstant zone u).wall) :
    clockFloor unit (ofInstant zone u) = ofInstant? zone u := by
  have same : ({ ofInstant zone u with
      wall := (ofInstant zone u).wall - (ofInstant zone u).wall % unit.micros } : Moment) =
        ofInstant zone u := by
    rw [Int.emod_eq_zero_of_dvd whole, Int.sub_zero]
  rw [clockFloor, same, normalize_ofInstant, instant_ofInstant spaced]

/-- The instant that the floored wall time is read as, with the mark of the moment. -/
def floorReading (zone : Zone) (unit : ClockUnit) (u : Int) : Int :=
  let wall := (ofInstant zone u).wall - (ofInstant zone u).wall % unit.micros
  wall - zone.wallOffset (wall / perSecond) (zone.isSecondPass (u / perSecond)) * perSecond

theorem clockFloor_eq_floorReading (zone : Zone) (unit : ClockUnit) (u : Int) :
    clockFloor unit (ofInstant zone u) = ofInstant? zone (floorReading zone unit u) :=
  normalize_eq rfl isUniversal_of_secondPass

/-- Reading a floored wall time arrives at the wall time, or later by the length of the stretch that
skips it; and then the moment was no second showing. -/
theorem wall_floorReading (spaced : zone.Spaced) (unit : ClockUnit) (u : Int) :
    (ofInstant zone (floorReading zone unit u)).wall =
        (ofInstant zone u).wall - (ofInstant zone u).wall % unit.micros ∨
      ∃ t, zone.offsetAt (t - 1) < zone.offsetAt t ∧
        (ofInstant zone (floorReading zone unit u)).wall =
          (ofInstant zone u).wall - (ofInstant zone u).wall % unit.micros +
            (zone.offsetAt t - zone.offsetAt (t - 1)) * perSecond ∧
        zone.isSecondPass (u / perSecond) = false ∧
        zone.isSecondPass (floorReading zone unit u / perSecond) = false := by
  obtain ⟨wall, floored⟩ : ∃ wall,
      wall = (ofInstant zone u).wall - (ofInstant zone u).wall % unit.micros := ⟨_, rfl⟩
  obtain ⟨pass, mark⟩ : ∃ pass, pass = zone.isSecondPass (u / perSecond) := ⟨_, rfl⟩
  have reading : floorReading zone unit u =
      wall - zone.wallOffset (wall / perSecond) pass * perSecond := by
    rw [floored, mark]
    rfl
  have second : floorReading zone unit u / perSecond =
      wall / perSecond - zone.wallOffset (wall / perSecond) pass := by
    simp only [reading, perSecond]
    omega
  rw [← floored, ← mark, ofInstant, second]
  rcases spaced.shows_or_skips (wall / perSecond) pass with shows | ⟨t, skips⟩
  · left
    rw [shows, reading, Int.sub_add_cancel]
  · right
    -- what is floored by less than an hour in a second showing stays away from skipped stretches
    have first : pass = false := by
      rw [← Bool.not_eq_true, mark]
      intro second
      have lower := Int.emod_nonneg (ofInstant zone u).wall (Int.ne_of_gt unit.micros_pos)
      have upper := Int.emod_lt_of_pos (ofInstant zone u).wall unit.micros_pos
      have short := micros_le_hour unit
      have shown := wall_ofInstant_div zone u
      simp only [perSecond] at shown short second skips
      refine spaced.not_skips_of_isSecondPass second ?_ ?_ t skips <;> omega
    subst first
    obtain ⟨-, offset, firstReading⟩ := spaced.offsetAt_firstReading_of_skips skips
    have wallOffset := spaced.wallOffset_of_skips skips false
    rw [Zone.firstReading] at offset
    refine ⟨t, by have := skips.1; have := skips.2; omega, ?_, rfl,
      spaced.isSecondPass_firstReading _⟩
    rw [offset, reading, wallOffset, if_neg Bool.false_ne_true]
    simp only [perSecond]
    omega

theorem clockFloor_clockFloor (spaced : zone.Spaced) {unit : ClockUnit}
    (suits : zone.Suits (.clock unit) .down)
    (rounded : clockFloor unit (ofInstant zone u) = .ok once) :
    clockFloor unit once = .ok once := by
  rw [clockFloor_eq_floorReading] at rounded
  obtain rfl := eq_of_ofInstant? rounded
  rw [← rounded]
  have whole : unit.micros ∣ (ofInstant zone u).wall - (ofInstant zone u).wall % unit.micros :=
    Int.dvd_self_sub_emod
  rcases wall_floorReading spaced unit u with same | ⟨t, forward, later, first, first'⟩
  · exact clockFloor_of_dvd spaced (same ▸ whole)
  rcases suits t forward with shorter | units
  · -- the floor of what is shown instead of the skipped wall time is that wall time again
    have floor : (ofInstant zone (floorReading zone unit u)).wall -
        (ofInstant zone (floorReading zone unit u)).wall % unit.micros =
          (ofInstant zone u).wall - (ofInstant zone u).wall % unit.micros := by
      obtain ⟨n, product⟩ := whole
      rw [later, product, Int.mul_add_emod_self_left,
        Int.emod_eq_of_lt (by simp only [perSecond]; omega) shorter]
      omega
    rw [clockFloor_eq_floorReading]
    refine congrArg (ofInstant? zone) ?_
    rw [floorReading, floor, first', ← first]
    rfl
  · exact clockFloor_of_dvd spaced (later ▸ Int.dvd_add whole units)

/-- What was rounded once is rounded to itself, where the changes of the zone suit the unit and the
direction. -/
theorem round_idempotent (spaced : zone.Spaced) (unit : TimeUnit) (direction : Direction)
    (suits : zone.Suits unit direction) (u : Int) {once : Moment}
    (rounded : round unit direction (ofInstant zone u) = .ok once) :
    round unit direction once = .ok once := by
  cases unit with
  | calendar unit =>
    cases direction with
    | down => exact calendarFloor_calendarFloor spaced rounded
    | up => exact calendarCeil_calendarCeil spaced suits rounded
  | clock unit =>
    cases direction with
    | down => exact clockFloor_clockFloor spaced suits rounded
    | up => exact clockCeil_clockCeil spaced suits rounded

/-- Clocks that go from 02:00 to 02:30 on October 6th, 2024. -/
def halfHourChange : Zone :=
  .ofTable ⟨37800, by decide, by decide⟩ [
    ⟨epoch1970 + 1728142200, ⟨⟨39600, by decide, by decide⟩, true⟩⟩]

theorem spaced_halfHourChange : halfHourChange.Spaced :=
  Zone.spaced_ofTable (by decide)

theorem suits_halfHourChange : halfHourChange.Suits (.clock .hour) .down := by
  intro t forward
  have changes : halfHourChange.ChangesAt t := by
    rw [Zone.ChangesAt]
    omega
  obtain ⟨change, member, rfl⟩ := Zone.exists_mem_of_changesAt changes
  obtain rfl := List.mem_singleton.mp member
  exact .inl (by decide)

/-- The hour of 02:45 is rounded down to the change, at which it begins at 02:30. -/
theorem round_hour_down_twice :
    halfHourChange.Spaced ∧ halfHourChange.Suits (.clock .hour) .down ∧
      round (.clock .hour) .down
          (ofInstant halfHourChange ((epoch1970 + 1728143100) * perSecond)) =
        .ok (ofInstant halfHourChange ((epoch1970 + 1728142200) * perSecond)) ∧
      round (.clock .hour) .down
          (ofInstant halfHourChange ((epoch1970 + 1728142200) * perSecond)) =
        .ok (ofInstant halfHourChange ((epoch1970 + 1728142200) * perSecond)) := by
  have once : round (.clock .hour) .down
      (ofInstant halfHourChange ((epoch1970 + 1728143100) * perSecond)) =
        .ok (ofInstant halfHourChange ((epoch1970 + 1728142200) * perSecond)) := rfl
  exact ⟨spaced_halfHourChange, suits_halfHourChange, once,
    round_idempotent spaced_halfHourChange (.clock .hour) .down suits_halfHourChange _ once⟩

/-- Rounded up, 02:45 arrives an hour after the change, which is within the hour of 03:00, and from
there at the end of that hour. -/
theorem round_hour_up_twice :
    (ofInstant halfHourChange ((epoch1970 + 1728143100) * perSecond)).wall % perDay =
        9900 * perSecond ∧
      round (.clock .hour) .up (ofInstant halfHourChange ((epoch1970 + 1728143100) * perSecond)) =
        .ok (ofInstant halfHourChange ((epoch1970 + 1728145800) * perSecond - 1)) ∧
      round (.clock .hour) .up
          (ofInstant halfHourChange ((epoch1970 + 1728145800) * perSecond - 1)) =
        .ok (ofInstant halfHourChange ((epoch1970 + 1728147600) * perSecond - 1)) ∧
      (ofInstant halfHourChange ((epoch1970 + 1728145800) * perSecond - 1)).instant <
        (ofInstant halfHourChange ((epoch1970 + 1728147600) * perSecond - 1)).instant :=
  ⟨by decide, rfl, rfl, by decide⟩

end Moment

end RelativeTime
