import Mathlib.Order.Monotone.Basic
import RelativeTime.Calendar.Periods
import RelativeTime.Unit

/-!
# Calendar periods partition the days

For every calendar unit the first days of the periods ascend and every day lies between the first day
of its period and that of the next. Both together say that a period has begun by a day exactly if the
period around the day is not an earlier one (`CalendarUnit.start_le_iff`), and whatever is proved
about calendar units goes through that.
-/

namespace RelativeTime

namespace CalendarUnit

theorem start_lt_start_succ (unit : CalendarUnit) (k : Int) :
    unit.start k < unit.start (k + 1) := by
  cases unit with
  | day => exact Int.lt_succ k
  | week =>
    simp only [start]
    omega
  | month =>
    have days := Calendar.monthStart_add (k / 12) (m := k % 12) (by omega) (by omega)
    have next := Calendar.monthStart_add (k / 12) (m := k % 12 + 1) (by omega) (by omega)
    rw [show 12 * (k / 12) + k % 12 = k by omega] at days
    rw [show 12 * (k / 12) + (k % 12 + 1) = k + 1 by omega] at next
    simp only [start, days, next, Calendar.daysBeforeMonth]
    repeat' split
    all_goals omega
  | year =>
    simp only [start, Calendar.yearStart_succ]
    split <;> omega

theorem start_le_start (unit : CalendarUnit) {k k' : Int} (ordered : k ≤ k') :
    unit.start k ≤ unit.start k' :=
  monotone_int_of_le_succ (fun k => Int.le_of_lt (unit.start_lt_start_succ k)) ordered

theorem start_index_le (unit : CalendarUnit) (d : Int) : unit.start (unit.index d) ≤ d := by
  cases unit with
  | day => exact Int.le_refl d
  | week =>
    simp only [start, index]
    omega
  | month => exact (Calendar.monthStart_monthIndex d).1
  | year => exact Calendar.yearStart_yearIndex_le d

theorem lt_start_index_succ (unit : CalendarUnit) (d : Int) :
    d < unit.start (unit.index d + 1) := by
  cases unit with
  | day => exact Int.lt_succ d
  | week =>
    simp only [start, index]
    omega
  | month => exact (Calendar.monthStart_monthIndex d).2
  | year => exact Calendar.lt_yearStart_succ d

/-- A period has begun by a day if the period around the day is that one or a later one. -/
theorem start_le_iff (unit : CalendarUnit) {k d : Int} : unit.start k ≤ d ↔ k ≤ unit.index d := by
  constructor
  · intro begun
    refine Int.not_lt.mp fun later => Int.not_le.mpr (unit.lt_start_index_succ d) ?_
    exact Int.le_trans (unit.start_le_start later) begun
  · intro le
    exact Int.le_trans (unit.start_le_start le) (unit.start_index_le d)

theorem index_eq_iff (unit : CalendarUnit) {k d : Int} :
    unit.index d = k ↔ unit.start k ≤ d ∧ d < unit.start (k + 1) := by
  have begun : unit.start k ≤ d ↔ k ≤ unit.index d := unit.start_le_iff
  have ended : unit.start (k + 1) ≤ d ↔ k + 1 ≤ unit.index d := unit.start_le_iff
  omega

@[simp] theorem index_start (unit : CalendarUnit) (k : Int) : unit.index (unit.start k) = k :=
  unit.index_eq_iff.mpr ⟨Int.le_refl _, unit.start_lt_start_succ k⟩

theorem index_next (unit : CalendarUnit) (d : Int) : unit.index (unit.next d) = unit.index d + 1 :=
  unit.index_start _

end CalendarUnit

end RelativeTime
