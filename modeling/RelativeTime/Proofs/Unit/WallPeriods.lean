import RelativeTime.Adapter
import RelativeTime.Proofs.Unit.Shifting

/-!
# Units on the wall

A clock that is never changed counts the ticks of its wall time without a break, and every unit can
be read off that count: its periods are numbered, clock units from the start of the calendar and
calendar units by their days. `TimeUnit.startAt_le_iff` says how the first tick of a period and the
number of the period around a tick fit together, for all units in the same words as
`CalendarUnit.start_le_iff` does for days. Moments tick in microseconds and stamps in nanoseconds, so
the length of a tick is left open: `scale` ticks make a microsecond.

Adding months or years does not keep the order of wall times, since two days of a month can come to
the same day of a shorter one. It does keep the order of wall times that are ordered by their days and
by their times of day as well, which is what the two bounds of any period are.
-/

namespace RelativeTime

def ticksPerDay (scale : Int) : Int := scale * 86400000000

namespace TimeUnit

/-- The first tick of the period with number `k`. -/
def startAt (scale : Int) : TimeUnit → Int → Int
  | .clock unit, k => k * (scale * unit.micros)
  | .calendar unit, k => unit.start k * ticksPerDay scale

/-- The number of the period around a tick. -/
def indexAt (scale : Int) : TimeUnit → Int → Int
  | .clock unit, wall => wall / (scale * unit.micros)
  | .calendar unit, wall => unit.index (wall / ticksPerDay scale)

/-- The first or the last tick of the period around a tick. -/
def roundAt (scale : Int) (unit : TimeUnit) : Direction → Int → Int
  | .down, wall => unit.startAt scale (unit.indexAt scale wall)
  | .up, wall => unit.startAt scale (unit.indexAt scale wall + 1) - 1

/-- The tick that comes `n` units after another. -/
def addAt (scale : Int) : TimeUnit → Int → Int → Int
  | .clock unit, n, wall => wall + n * (scale * unit.micros)
  | .calendar unit, n, wall =>
    unit.shift n (wall / ticksPerDay scale) * ticksPerDay scale + wall % ticksPerDay scale

end TimeUnit

variable {scale wall wall' : Int}

/-- The bounds of a tick are those of its period. -/
theorem TimeUnit.roundAt_congr (unit : TimeUnit) (direction : Direction)
    (samePeriod : unit.indexAt scale wall = unit.indexAt scale wall') :
    unit.roundAt scale direction wall = unit.roundAt scale direction wall' := by
  cases direction <;> simp only [roundAt, samePeriod]

theorem ticksPerDay_pos (positive : 0 < scale) : 0 < ticksPerDay scale :=
  Int.mul_pos positive (by decide)

/-- A unit of the clock divides the day into periods. -/
theorem ClockUnit.exists_ticksPerDay_eq (unit : ClockUnit) (scale : Int) :
    ∃ n : Int, ticksPerDay scale = n * (scale * unit.micros) := by
  cases unit with
  | millisecond => exact ⟨86400000, by simp only [ticksPerDay, micros]; omega⟩
  | second => exact ⟨86400, by simp only [ticksPerDay, micros]; omega⟩
  | minute => exact ⟨1440, by simp only [ticksPerDay, micros]; omega⟩
  | hour => exact ⟨24, by simp only [ticksPerDay, micros]; omega⟩

namespace TimeUnit

variable (unit : TimeUnit) (positive : 0 < scale)
include positive

/-! ## Periods -/

/-- A period has begun by a tick if the period around the tick is that one or a later one. -/
theorem startAt_le_iff {k : Int} : unit.startAt scale k ≤ wall ↔ k ≤ unit.indexAt scale wall := by
  cases unit with
  | clock unit => exact (Int.le_ediv_iff_mul_le (Int.mul_pos positive unit.micros_pos)).symm
  | calendar unit =>
    simp only [startAt, indexAt]
    rw [← Int.le_ediv_iff_mul_le (ticksPerDay_pos positive), unit.start_le_iff]

theorem roundAt_down_le (wall : Int) : unit.roundAt scale .down wall ≤ wall :=
  (unit.startAt_le_iff positive).mpr (Int.le_refl _)

theorem le_roundAt_up (wall : Int) : wall ≤ unit.roundAt scale .up wall := by
  have notEnded : ¬ unit.startAt scale (unit.indexAt scale wall + 1) ≤ wall := by
    rw [unit.startAt_le_iff positive]
    omega
  simp only [roundAt]
  omega

theorem indexAt_eq_iff {k : Int} : unit.indexAt scale wall = k ↔
    unit.startAt scale k ≤ wall ∧ wall < unit.startAt scale (k + 1) := by
  have begun : _ ↔ k ≤ unit.indexAt scale wall := unit.startAt_le_iff positive
  have ended : _ ↔ k + 1 ≤ unit.indexAt scale wall := unit.startAt_le_iff positive
  omega

/-- The bounds of a period are in the period. -/
theorem indexAt_roundAt (direction : Direction) (wall : Int) :
    unit.indexAt scale (unit.roundAt scale direction wall) = unit.indexAt scale wall := by
  have lower := unit.roundAt_down_le positive wall
  have upper := unit.le_roundAt_up positive wall
  rw [unit.indexAt_eq_iff positive]
  simp only [roundAt] at lower upper
  cases direction with
  | down =>
    simp only [roundAt]
    omega
  | up =>
    simp only [roundAt]
    omega

theorem indexAt_startAt (k : Int) : unit.indexAt scale (unit.startAt scale k) = k := by
  cases unit with
  | clock unit => exact Int.mul_ediv_cancel _ (Int.ne_of_gt (Int.mul_pos positive unit.micros_pos))
  | calendar unit =>
    simp only [startAt, indexAt]
    rw [Int.mul_ediv_cancel _ (Int.ne_of_gt (ticksPerDay_pos positive)), unit.index_start]

theorem startAt_le_startAt {k k' : Int} (ordered : k ≤ k') :
    unit.startAt scale k ≤ unit.startAt scale k' := by
  apply (unit.startAt_le_iff positive).mpr
  rwa [unit.indexAt_startAt positive]

theorem indexAt_le_indexAt (ordered : wall ≤ wall') :
    unit.indexAt scale wall ≤ unit.indexAt scale wall' := by
  apply (unit.startAt_le_iff positive).mp
  exact Int.le_trans (unit.roundAt_down_le positive wall) ordered

/-- Bounds are in the order of their periods. -/
theorem roundAt_le_roundAt_of_indexAt_le (direction : Direction)
    (periods : unit.indexAt scale wall ≤ unit.indexAt scale wall') :
    unit.roundAt scale direction wall ≤ unit.roundAt scale direction wall' := by
  cases direction with
  | down => exact unit.startAt_le_startAt positive periods
  | up =>
    apply Int.sub_le_sub_right
    exact unit.startAt_le_startAt positive (Int.add_le_add_right periods 1)

/-- Rounding keeps the order of ticks. -/
theorem roundAt_le_roundAt (direction : Direction) (ordered : wall ≤ wall') :
    unit.roundAt scale direction wall ≤ unit.roundAt scale direction wall' := by
  apply unit.roundAt_le_roundAt_of_indexAt_le positive direction
  exact unit.indexAt_le_indexAt positive ordered

/-- The ticks from the start of one period to the end of another are those of the periods between. -/
theorem mem_periods_iff {k k' : Int} :
    unit.startAt scale k ≤ wall ∧ wall ≤ unit.startAt scale (k' + 1) - 1 ↔
      k ≤ unit.indexAt scale wall ∧ unit.indexAt scale wall ≤ k' := by
  have begun : _ ↔ k ≤ unit.indexAt scale wall := unit.startAt_le_iff positive
  have ended : _ ↔ k' + 1 ≤ unit.indexAt scale wall := unit.startAt_le_iff positive
  omega

/-! ## Adding to periods -/

/-- The start of a period is moved to the start of a period. -/
theorem addAt_startAt (n k : Int) :
    unit.addAt scale n (unit.startAt scale k) = unit.startAt scale (k + n) := by
  cases unit with
  | clock unit => exact (Int.add_mul _ _ _).symm
  | calendar unit =>
    have length := Int.ne_of_gt (ticksPerDay_pos positive)
    simp only [addAt, startAt]
    rw [Int.mul_ediv_cancel _ length, unit.shift_start, Int.mul_emod_left, Int.add_zero]

/-- Calendar units move the day and leave the time of day. -/
theorem day_addAt_calendar (unit : CalendarUnit) (n wall : Int) :
    addAt scale (.calendar unit) n wall / ticksPerDay scale =
      unit.shift n (wall / ticksPerDay scale) := by
  have length := ticksPerDay_pos positive
  have withinDay : wall % ticksPerDay scale / ticksPerDay scale = 0 :=
    Int.ediv_eq_zero_of_lt (Int.emod_nonneg _ (Int.ne_of_gt length)) (Int.emod_lt_of_pos _ length)
  simp only [addAt]
  rw [Int.add_comm, Int.add_mul_ediv_right _ _ (Int.ne_of_gt length), withinDay, Int.zero_add]

/-- The period around a tick is moved by as many periods as the tick. -/
theorem indexAt_addAt (n wall : Int) :
    unit.indexAt scale (unit.addAt scale n wall) = unit.indexAt scale wall + n := by
  cases unit with
  | clock unit =>
    exact Int.add_mul_ediv_right _ _ (Int.ne_of_gt (Int.mul_pos positive unit.micros_pos))
  | calendar unit =>
    simp only [indexAt]
    rw [day_addAt_calendar positive, unit.index_shift]

/-- Rounding down and adding change places. -/
theorem roundAt_down_addAt (n wall : Int) :
    unit.roundAt scale .down (unit.addAt scale n wall) =
      unit.addAt scale n (unit.roundAt scale .down wall) := by
  simp only [roundAt]
  rw [unit.indexAt_addAt positive, unit.addAt_startAt positive]

/-- A period that has been moved ends where the one after it begins. -/
theorem roundAt_up_addAt (n wall : Int) :
    unit.roundAt scale .up (unit.addAt scale n wall) =
      unit.addAt scale (n + 1) (unit.roundAt scale .down wall) - 1 := by
  simp only [roundAt]
  rw [unit.indexAt_addAt positive, unit.addAt_startAt positive, Int.add_assoc]

end TimeUnit

/-! ## Order by day and by time of day -/

/-- The day of the one tick is not after that of the other, and neither is its time of day. -/
structure NoLaterInDay (scale wall wall' : Int) : Prop where
  day : wall / ticksPerDay scale ≤ wall' / ticksPerDay scale
  time : wall % ticksPerDay scale ≤ wall' % ticksPerDay scale

theorem NoLaterInDay.refl (scale wall : Int) : NoLaterInDay scale wall wall :=
  ⟨Int.le_refl _, Int.le_refl _⟩

theorem NoLaterInDay.le (positive : 0 < scale) (ordered : NoLaterInDay scale wall wall') :
    wall ≤ wall' := by
  have whole := Int.mul_ediv_add_emod wall (ticksPerDay scale)
  have whole' := Int.mul_ediv_add_emod wall' (ticksPerDay scale)
  have days := Int.mul_le_mul_of_nonneg_left ordered.day (Int.le_of_lt (ticksPerDay_pos positive))
  have time := ordered.time
  omega

namespace TimeUnit

variable (unit : TimeUnit) (positive : 0 < scale)
include positive

theorem addAt_le_addAt (n : Int) (ordered : NoLaterInDay scale wall wall') :
    unit.addAt scale n wall ≤ unit.addAt scale n wall' := by
  cases unit with
  | clock unit => exact Int.add_le_add_right (ordered.le positive) _
  | calendar unit =>
    have length := ticksPerDay_pos positive
    have days := unit.shift_le_shift n ordered.day
    exact Int.add_le_add (Int.mul_le_mul_of_nonneg_right days (Int.le_of_lt length)) ordered.time

omit positive in
/-- All units but months and years keep the order of ticks. -/
theorem addAt_le_addAt_of_ne (n : Int) (notMonth : unit ≠ .calendar .month)
    (notYear : unit ≠ .calendar .year) (ordered : wall ≤ wall') :
    unit.addAt scale n wall ≤ unit.addAt scale n wall' := by
  -- days and weeks are as long as so many ticks of the clock
  have byDays : ∀ m t : Int, (t / ticksPerDay scale + m) * ticksPerDay scale + t % ticksPerDay scale =
      t + m * ticksPerDay scale := by
    intro m t
    have whole := Int.mul_ediv_add_emod t (ticksPerDay scale)
    rw [Int.add_mul, Int.mul_comm (t / ticksPerDay scale)]
    omega
  cases unit with
  | clock unit => exact Int.add_le_add_right ordered _
  | calendar unit =>
    cases unit with
    | day | week =>
      simp only [addAt, CalendarUnit.shift, byDays]
      exact Int.add_le_add_right ordered _
    | month => contradiction
    | year => contradiction

/-- The days of ticks stay in order whatever is added. -/
theorem day_addAt_le_day_addAt (n : Int) (ordered : wall ≤ wall') :
    unit.addAt scale n wall / ticksPerDay scale ≤ unit.addAt scale n wall' / ticksPerDay scale := by
  have length := ticksPerDay_pos positive
  cases unit with
  | clock unit => exact Int.ediv_le_ediv length (Int.add_le_add_right ordered _)
  | calendar unit =>
    rw [day_addAt_calendar positive, day_addAt_calendar positive]
    exact unit.shift_le_shift n (Int.ediv_le_ediv length ordered)

/-- Rounding to a calendar unit looks at nothing but the day. -/
theorem roundAt_calendar_le_of_day_le (unit : CalendarUnit) (direction : Direction)
    (days : wall / ticksPerDay scale ≤ wall' / ticksPerDay scale) :
    roundAt scale (.calendar unit) direction wall ≤ roundAt scale (.calendar unit) direction wall' := by
  apply (calendar unit).roundAt_le_roundAt_of_indexAt_le positive direction
  exact unit.start_le_iff.mp (Int.le_trans (unit.start_index_le _) days)

/-- Rounding to a calendar unit gives all ticks the same time of day, the first or the last. -/
theorem noLaterInDay_roundAt_calendar (unit : CalendarUnit) (direction : Direction)
    (ordered : wall ≤ wall') :
    NoLaterInDay scale (roundAt scale (.calendar unit) direction wall)
      (roundAt scale (.calendar unit) direction wall') := by
  have length := ticksPerDay_pos positive
  have rounded := (calendar unit).roundAt_le_roundAt positive direction ordered
  refine ⟨Int.ediv_le_ediv length rounded, Int.le_of_eq ?_⟩
  cases direction with
  | down => exact (Int.mul_emod_left _ _).trans (Int.mul_emod_left _ _).symm
  | up =>
    have midnight : ∀ d : Int, (d * ticksPerDay scale - 1) % ticksPerDay scale =
        -1 % ticksPerDay scale := by
      intro d
      rw [Int.sub_eq_add_neg, Int.add_comm, Int.add_mul_emod_self_right]
    exact (midnight _).trans (midnight _).symm

/-- The first tick of a period is no later in its day than the last one is. -/
theorem noLaterInDay_roundAt (wall : Int) :
    NoLaterInDay scale (unit.roundAt scale .down wall) (unit.roundAt scale .up wall) := by
  have length := ticksPerDay_pos positive
  have ordered := Int.le_trans (unit.roundAt_down_le positive wall) (unit.le_roundAt_up positive wall)
  refine ⟨Int.ediv_le_ediv length ordered, ?_⟩
  cases unit with
  | clock unit =>
    -- a day has whole periods of the clock, so both bounds of a period are on one day
    obtain ⟨n, periods⟩ := unit.exists_ticksPerDay_eq scale
    have step := Int.mul_pos positive unit.micros_pos
    have samePeriod : roundAt scale (.clock unit) .up wall / (scale * unit.micros) =
        roundAt scale (.clock unit) .down wall / (scale * unit.micros) :=
      ((clock unit).indexAt_roundAt positive .up wall).trans
        ((clock unit).indexAt_roundAt positive .down wall).symm
    have sameDay : roundAt scale (.clock unit) .up wall / ticksPerDay scale =
        roundAt scale (.clock unit) .down wall / ticksPerDay scale := by
      rw [periods, Int.mul_comm n, ← Int.ediv_ediv_of_nonneg (Int.le_of_lt step),
        ← Int.ediv_ediv_of_nonneg (Int.le_of_lt step), samePeriod]
    have first := Int.mul_ediv_add_emod (roundAt scale (.clock unit) .down wall) (ticksPerDay scale)
    have last := Int.mul_ediv_add_emod (roundAt scale (.clock unit) .up wall) (ticksPerDay scale)
    rw [sameDay] at last
    omega
  | calendar unit =>
    -- the bounds are a midnight and the last tick before a midnight
    have first : roundAt scale (.calendar unit) .down wall % ticksPerDay scale = 0 :=
      Int.mul_emod_left _ _
    rw [first]
    exact Int.emod_nonneg _ (Int.ne_of_gt length)

end TimeUnit

end RelativeTime
