import Mathlib.Order.Bounds.Basic
import RelativeTime.Proofs.Unit.WallPeriods

/-!
# Where periods start

Whether a period starts can be seen on the wall clock alone. A unit of the clock starts wherever a
whole number of units is shown, and a calendar unit at the midnight of a first day: any day, a Monday,
the first day of a month or January 1st. The numbered periods start there and nowhere else
(`TimeUnit.startsAt_iff`). So what rounding down comes to is the last start of a period so far, and
what rounding up stops short of is the next one.
-/

namespace RelativeTime

/-- A period of the unit starts with day `d`. -/
def CalendarUnit.IsFirstDay (unit : CalendarUnit) (d : Int) : Prop :=
  let date := Calendar.Date.ofDay d
  match unit with
  | .day => True
  | .week => Calendar.weekday d = 0
  | .month => date.day = 1
  | .year => date.month = 1 ∧ date.day = 1

theorem CalendarUnit.isFirstDay_iff (unit : CalendarUnit) {d : Int} :
    unit.IsFirstDay d ↔ unit.start (unit.index d) = d := by
  cases unit with
  | day => exact iff_of_true trivial rfl
  | week =>
    simp only [IsFirstDay, Calendar.weekday, start, index]
    omega
  | month =>
    simp only [IsFirstDay, Calendar.Date.ofDay, start, index]
    omega
  | year =>
    simp only [IsFirstDay, Calendar.Date.ofDay, start, index]
    rw [← Calendar.monthStart_january, ← Calendar.monthIndex_div]
    constructor
    · rintro ⟨january, first⟩
      rw [show 12 * (Calendar.monthIndex d / 12) = Calendar.monthIndex d by omega]
      omega
    · intro first
      -- the month that starts the year is the one around its first day
      have january : Calendar.monthIndex d = 12 * (Calendar.monthIndex d / 12) := by
        have index := month.index_start (12 * (Calendar.monthIndex d / 12))
        rwa [show month.start _ = d from first] at index
      rw [← january] at first
      omega

/-- The first supported day is a Monday and the first day of a year. -/
theorem CalendarUnit.isFirstDay_zero (unit : CalendarUnit) : unit.IsFirstDay 0 := by
  cases unit with
  | day => trivial
  | week | month => rfl
  | year => exact ⟨rfl, rfl⟩

namespace TimeUnit

/-- A period of the unit starts at the tick. -/
def StartsAt (scale : Int) (unit : TimeUnit) (wall : Int) : Prop :=
  match unit with
  | .clock unit => scale * unit.micros ∣ wall
  | .calendar unit => ∃ d, unit.IsFirstDay d ∧ wall = d * ticksPerDay scale

/-- The period around a tick is the one from `start` to before `next`. -/
structure PeriodAround (scale : Int) (unit : TimeUnit) (wall start next : Int) : Prop where
  start : IsGreatest {t | unit.StartsAt scale t ∧ t ≤ wall} start
  next : IsLeast {t | unit.StartsAt scale t ∧ wall < t} next

variable {scale wall wall' start next start' next' : Int} {unit : TimeUnit}

theorem startsAt_zero (scale : Int) (unit : TimeUnit) : unit.StartsAt scale 0 := by
  cases unit with
  | clock unit => exact Int.dvd_zero _
  | calendar unit => exact ⟨0, unit.isFirstDay_zero, (Int.zero_mul _).symm⟩

/-! ## One period around each tick -/

theorem PeriodAround.unique (around : unit.PeriodAround scale wall start next)
    (around' : unit.PeriodAround scale wall start' next') : start' = start ∧ next' = next :=
  ⟨around'.start.unique around.start, around'.next.unique around.next⟩

/-- No period starts before the calendar and ends in it. -/
theorem PeriodAround.start_nonneg (around : unit.PeriodAround scale wall start next)
    (nonneg : 0 ≤ wall) : 0 ≤ start :=
  around.start.2 ⟨unit.startsAt_zero scale, nonneg⟩

/-- The period is around all ticks from its start to before the next. -/
theorem PeriodAround.around_iff (around : unit.PeriodAround scale wall start next) :
    unit.PeriodAround scale wall' start next ↔ start ≤ wall' ∧ wall' < next := by
  constructor
  · intro around'
    exact ⟨around'.start.1.2, around'.next.1.2⟩
  · rintro ⟨begun, notEnded⟩
    constructor
    · refine ⟨⟨around.start.1.1, begun⟩, ?_⟩
      rintro t ⟨starts, reached⟩
      rcases Int.lt_or_le wall t with later | earlier
      · have := around.next.2 ⟨starts, later⟩
        omega
      · exact around.start.2 ⟨starts, earlier⟩
    · refine ⟨⟨around.next.1.1, notEnded⟩, ?_⟩
      rintro t ⟨starts, later⟩
      rcases Int.lt_or_le wall t with later' | earlier
      · exact around.next.2 ⟨starts, later'⟩
      · have := around.start.2 ⟨starts, earlier⟩
        omega

section

variable (positive : 0 < scale)
include positive

/-- A period starts where the period around the tick does. -/
theorem startsAt_iff (unit : TimeUnit) :
    unit.StartsAt scale wall ↔ unit.startAt scale (unit.indexAt scale wall) = wall := by
  cases unit with
  | clock unit =>
    simp only [StartsAt, startAt, indexAt]
    exact ⟨Int.ediv_mul_cancel, fun starts => starts ▸ Int.dvd_mul_left _ _⟩
  | calendar unit =>
    have length := Int.ne_of_gt (ticksPerDay_pos positive)
    constructor
    · rintro ⟨d, first, rfl⟩
      simp only [startAt, indexAt]
      rw [Int.mul_ediv_cancel _ length, unit.isFirstDay_iff.mp first]
    · intro starts
      refine ⟨_, unit.isFirstDay_iff.mpr ?_, starts.symm⟩
      rw [unit.index_start]

theorem startsAt_startAt (unit : TimeUnit) (k : Int) :
    unit.StartsAt scale (unit.startAt scale k) := by
  rw [unit.startsAt_iff positive, unit.indexAt_startAt positive]

/-- The bounds on the wall are those of the period around the tick. -/
theorem periodAround_roundAt (unit : TimeUnit) (wall : Int) :
    unit.PeriodAround scale wall (unit.roundAt scale .down wall)
      (unit.roundAt scale .up wall + 1) := by
  have lower := unit.roundAt_down_le positive wall
  have upper := unit.le_roundAt_up positive wall
  simp only [roundAt, Int.sub_add_cancel] at lower upper ⊢
  constructor
  · refine ⟨⟨unit.startsAt_startAt positive _, lower⟩, ?_⟩
    rintro t ⟨starts, reached⟩
    rw [← (unit.startsAt_iff positive).mp starts]
    exact unit.startAt_le_startAt positive (unit.indexAt_le_indexAt positive reached)
  · refine ⟨⟨unit.startsAt_startAt positive _, by omega⟩, ?_⟩
    rintro t ⟨starts, later⟩
    have notBegun : ¬ unit.indexAt scale t ≤ unit.indexAt scale wall := by
      rw [← unit.startAt_le_iff positive, (unit.startsAt_iff positive).mp starts]
      omega
    rw [← (unit.startsAt_iff positive).mp starts]
    exact unit.startAt_le_startAt positive (by omega)

end

end TimeUnit

end RelativeTime
