import RelativeTime.Proofs.Unit.PeriodStarts

/-!
# Units within units

The periods of one unit can be made of whole periods of another. Then a tick at which the coarser one
starts is one at which the finer one does (`TimeUnit.Nested.startsAt`), and all else follows from that:
rounding to the finer unit does not leave the period of the coarser one, and the bounds of the coarser
period are bounds of finer ones. Weeks fit neither months nor years.
-/

namespace RelativeTime

namespace TimeUnit

/-- The periods of the second unit are made of whole periods of the first. -/
inductive Nested : TimeUnit → TimeUnit → Prop where
  | milliseconds : Nested (.clock .millisecond) (.clock .second)
  | seconds : Nested (.clock .second) (.clock .minute)
  | minutes : Nested (.clock .minute) (.clock .hour)
  | hours : Nested (.clock .hour) (.calendar .day)
  | daysOfWeek : Nested (.calendar .day) (.calendar .week)
  | daysOfMonth : Nested (.calendar .day) (.calendar .month)
  | months : Nested (.calendar .month) (.calendar .year)
  | trans {fine middle coarse : TimeUnit} : Nested fine middle → Nested middle coarse →
      Nested fine coarse

variable {scale wall : Int} {fine coarse : TimeUnit}

/-- What holds a unit of the clock in a unit of the clock is one itself. -/
theorem Nested.exists_clock (nested : Nested fine coarse) {unit : ClockUnit} (onClock : coarse = .clock unit) :
    ∃ unit', fine = .clock unit' := by
  induction nested generalizing unit with
  | milliseconds | seconds | minutes | hours => exact ⟨_, rfl⟩
  | daysOfWeek | daysOfMonth | months => cases onClock
  | trans _ _ finer coarser =>
    obtain ⟨unit', middle⟩ := coarser onClock
    exact finer middle

theorem Nested.startsAt (nested : Nested fine coarse) (starts : coarse.StartsAt scale wall) :
    fine.StartsAt scale wall := by
  induction nested with
  | milliseconds | seconds | minutes =>
    exact Int.dvd_trans (Int.mul_dvd_mul_left scale (by decide)) starts
  | hours =>
    obtain ⟨d, -, rfl⟩ := starts
    obtain ⟨n, periods⟩ := ClockUnit.hour.exists_ticksPerDay_eq scale
    rw [periods, ← Int.mul_assoc]
    exact Int.dvd_mul_left _ _
  | daysOfWeek | daysOfMonth =>
    obtain ⟨d, -, midnight⟩ := starts
    exact ⟨d, trivial, midnight⟩
  | months =>
    obtain ⟨d, ⟨-, first⟩, midnight⟩ := starts
    exact ⟨d, first, midnight⟩
  | trans _ _ finer coarser => exact finer (coarser starts)

section

variable (nested : Nested fine coarse) (positive : 0 < scale)
include nested positive

/-- The period of the finer unit around a tick lies in that of the coarser one. -/
theorem Nested.bounds (wall : Int) :
    coarse.roundAt scale .down wall ≤ fine.roundAt scale .down wall ∧
      fine.roundAt scale .up wall ≤ coarse.roundAt scale .up wall := by
  have finer := fine.periodAround_roundAt positive wall
  have coarser := coarse.periodAround_roundAt positive wall
  -- both bounds of the coarser period are starts of the finer unit, one up to the tick and one after it
  have begun := finer.start.2 ⟨nested.startsAt coarser.start.1.1, coarser.start.1.2⟩
  have ended := finer.next.2 ⟨nested.startsAt coarser.next.1.1, coarser.next.1.2⟩
  exact ⟨begun, by omega⟩

theorem Nested.indexAt_roundAt (direction : Direction) (wall : Int) :
    coarse.indexAt scale (fine.roundAt scale direction wall) = coarse.indexAt scale wall := by
  obtain ⟨lower, upper⟩ := nested.bounds positive wall
  have begun := fine.roundAt_down_le positive wall
  have ended := fine.le_roundAt_up positive wall
  have inPeriod : ∀ {t}, coarse.roundAt scale .down wall ≤ t → t ≤ coarse.roundAt scale .up wall →
      coarse.indexAt scale t = coarse.indexAt scale wall := by
    intro t lower upper
    obtain ⟨notBefore, notAfter⟩ := (coarse.mem_periods_iff positive).mp ⟨lower, upper⟩
    exact Int.le_antisymm notAfter notBefore
  cases direction with
  | down => exact inPeriod lower (by omega)
  | up => exact inPeriod (by omega) upper

theorem Nested.roundAt_roundAt (direction : Direction) (wall : Int) :
    coarse.roundAt scale direction (fine.roundAt scale direction wall) =
      coarse.roundAt scale direction wall :=
  coarse.roundAt_congr direction (nested.indexAt_roundAt positive direction wall)

/-- The bounds of a coarser period are bounds of finer ones, and rounded to themselves. -/
theorem Nested.roundAt_bound (direction : Direction) (wall : Int) :
    fine.roundAt scale direction (coarse.roundAt scale direction wall) =
      coarse.roundAt scale direction wall := by
  have coarser := coarse.periodAround_roundAt positive wall
  cases direction with
  | down =>
    have finer := fine.periodAround_roundAt positive (coarse.roundAt scale .down wall)
    exact Int.le_antisymm finer.start.1.2
      (finer.start.2 ⟨nested.startsAt coarser.start.1.1, Int.le_refl _⟩)
  | up =>
    have finer := fine.periodAround_roundAt positive (coarse.roundAt scale .up wall)
    have ended := finer.next.2 ⟨nested.startsAt coarser.next.1.1, Int.lt_succ _⟩
    exact Int.le_antisymm (by omega) (fine.le_roundAt_up positive _)

end

/-- May 1st, 2024, is in a week that starts in April. -/
example :
    let wall := Calendar.Date.toDay ⟨2024, 5, 1⟩ * ticksPerDay 1
    roundAt 1 (.calendar .month) .down (roundAt 1 (.calendar .week) .down wall) ≠
      roundAt 1 (.calendar .month) .down wall := by
  decide

end TimeUnit

end RelativeTime
