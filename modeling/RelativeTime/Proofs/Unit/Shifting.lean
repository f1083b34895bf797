import RelativeTime.Proofs.Unit.Periods

/-!
# Moving a day by calendar units

A date is moved by months or years in its numbers: the year and the month go on by the amount, and the
day of the month stays, or becomes the last one where the month is shorter. `CalendarUnit.Shifts` says
this for two days by their dates, and there is exactly one day that it is true of, the one that
`CalendarUnit.shift` computes from the index of a month.
-/

namespace RelativeTime

/-- Day `d'` comes `n` units after day `d`. Days and weeks count days. Months and years go on in the
numbers of the date, and keep the day of the month or take the last one of a shorter month. -/
def CalendarUnit.Shifts (unit : CalendarUnit) (n d d' : Int) : Prop :=
  let date := Calendar.Date.ofDay d
  let date' := Calendar.Date.ofDay d'
  match unit with
  | .day => d' = d + n
  | .week => d' = d + 7 * n
  | .month => 12 * date'.year + date'.month = 12 * date.year + date.month + n ∧
      date'.day = min date.day (Calendar.monthLength (Calendar.monthIndex d'))
  | .year => date'.year = date.year + n ∧ date'.month = date.month ∧
      date'.day = min date.day (Calendar.monthLength (Calendar.monthIndex d'))

namespace Calendar

variable {d k r : Int}

/-! ## Days of a month -/

theorem dayOfMonth_bounds (d : Int) :
    1 ≤ (Date.ofDay d).day ∧ (Date.ofDay d).day ≤ monthLength (monthIndex d) := by
  obtain ⟨begun, notEnded⟩ := monthStart_monthIndex d
  simp only [Date.ofDay, monthLength]
  omega

theorem monthIndex_monthStart_add (lower : 0 ≤ r) (upper : r < monthLength k) :
    monthIndex (monthStart k + r) = k := by
  rw [monthLength] at upper
  exact CalendarUnit.month.index_eq_iff.mpr
    ⟨Int.le_add_of_nonneg_right lower, Int.add_lt_of_lt_sub_left upper⟩

/-- Whatever the day, its place in a month is in that month. -/
theorem monthIndex_onMonth (d k : Int) : monthIndex (onMonth d k) = k := by
  have begun := (monthStart_monthIndex d).1
  have length : monthStart k < monthStart (k + 1) := CalendarUnit.month.start_lt_start_succ k
  refine monthIndex_monthStart_add ?_ ?_ <;> simp only [monthLength] <;> omega

theorem eq_onMonth_iff {d' : Int} : d' = onMonth d k ↔
    monthIndex d' = k ∧ (Date.ofDay d').day = min (Date.ofDay d).day (monthLength k) := by
  constructor
  · rintro rfl
    refine ⟨monthIndex_onMonth d k, ?_⟩
    simp only [Date.ofDay, monthIndex_onMonth]
    rw [onMonth]
    omega
  · rintro ⟨rfl, sameDay⟩
    simp only [Date.ofDay] at sameDay
    rw [onMonth]
    omega

end Calendar

namespace CalendarUnit

open Calendar (Date monthIndex)

/-! ## Moving -/

/-- Years are moved by as twelve months. -/
theorem shifts_year_iff {n d d' : Int} : year.Shifts n d d' ↔ month.Shifts (12 * n) d d' := by
  simp only [Shifts, Date.ofDay]
  omega

/-- There is one day that a unit moves a day to. -/
theorem shifts_iff (unit : CalendarUnit) {n d d' : Int} :
    unit.Shifts n d d' ↔ d' = unit.shift n d := by
  -- the index of a month counts its year and month in one number, and years are months by twelve
  have byMonths : ∀ m, month.Shifts m d d' ↔ d' = Calendar.onMonth d (monthIndex d + m) := by
    intro m
    have numbers : 12 * (Date.ofDay d').year + (Date.ofDay d').month =
        12 * (Date.ofDay d).year + (Date.ofDay d).month + m ↔ monthIndex d' = monthIndex d + m := by
      simp only [Date.ofDay]
      omega
    rw [Calendar.eq_onMonth_iff, Shifts, numbers]
    constructor
    · rintro ⟨index, sameDay⟩
      exact ⟨index, index ▸ sameDay⟩
    · rintro ⟨index, sameDay⟩
      exact ⟨index, index.symm ▸ sameDay⟩
  cases unit with
  | day | week => rfl
  | month => exact byMonths n
  | year => exact shifts_year_iff.trans (byMonths (12 * n))

theorem shift_zero (unit : CalendarUnit) (d : Int) : unit.shift 0 d = d := by
  refine (unit.shifts_iff.mp ?_).symm
  have inMonth := (Int.min_eq_left (Calendar.dayOfMonth_bounds d).2).symm
  cases unit with
  | day | week => exact (Int.add_zero d).symm
  | month => exact ⟨(Int.add_zero _).symm, inMonth⟩
  | year => exact ⟨(Int.add_zero _).symm, rfl, inMonth⟩

/-- Moving days keeps their order, though not always their distance. -/
theorem shift_le_shift (unit : CalendarUnit) (n : Int) {d d' : Int} (ordered : d ≤ d') :
    unit.shift n d ≤ unit.shift n d' := by
  have byMonths : ∀ m, Calendar.onMonth d (Calendar.monthIndex d + m) ≤
      Calendar.onMonth d' (Calendar.monthIndex d' + m) := by
    intro m
    have later : Calendar.monthIndex d ≤ Calendar.monthIndex d' :=
      month.start_le_iff.mp (Int.le_trans (month.start_index_le d) ordered)
    rcases Int.lt_or_eq_of_le later with earlier | same
    · -- the later month has not begun while the earlier lasts
      have ended := (month.index_eq_iff.mp
        (Calendar.monthIndex_onMonth d (Calendar.monthIndex d + m))).2
      have begun := (month.index_eq_iff.mp
        (Calendar.monthIndex_onMonth d' (Calendar.monthIndex d' + m))).1
      have follows : month.start (Calendar.monthIndex d + m + 1) ≤
          month.start (Calendar.monthIndex d' + m) := month.start_le_start (by omega)
      omega
    · simp only [Calendar.onMonth, same]
      omega
  cases unit with
  | day | week =>
    simp only [shift]
    omega
  | month => exact byMonths n
  | year => exact byMonths (12 * n)

/-- The first day of a period is moved to the first day of a period. -/
theorem shift_start (unit : CalendarUnit) (n k : Int) :
    unit.shift n (unit.start k) = unit.start (k + n) := by
  have byMonths : ∀ m k, Calendar.onMonth (Calendar.monthStart k)
      (monthIndex (Calendar.monthStart k) + m) = Calendar.monthStart (k + m) := by
    intro m k
    have length : Calendar.monthStart (k + m) < Calendar.monthStart (k + m + 1) :=
      month.start_lt_start_succ (k + m)
    have index : monthIndex (Calendar.monthStart k) = k := month.index_start k
    simp only [Calendar.onMonth, Calendar.monthLength, index]
    omega
  cases unit with
  | day => rfl
  | week =>
    simp only [shift, start]
    omega
  | month => exact byMonths n k
  | year =>
    simp only [shift, start, ← Calendar.monthStart_january, byMonths]
    rw [Int.mul_add]

/-- The period around a day is moved by as many periods as the day. -/
theorem index_shift (unit : CalendarUnit) (n d : Int) :
    unit.index (unit.shift n d) = unit.index d + n := by
  cases unit with
  | day => rfl
  | week =>
    simp only [shift, index]
    omega
  | month => exact Calendar.monthIndex_onMonth d _
  | year =>
    simp only [shift, index]
    rw [← Calendar.monthIndex_div, Calendar.monthIndex_onMonth, ← Calendar.monthIndex_div]
    omega

/-! ## Moving by months twice -/

/-- The unit counts months, so many at a time. -/
inductive CountsMonths : CalendarUnit → Int → Prop where
  | month : CountsMonths .month 1
  | year : CountsMonths .year 12

namespace CountsMonths

variable {unit : CalendarUnit} {months : Int} (counts : unit.CountsMonths months)
include counts

theorem shift_eq (n d : Int) : unit.shift n d = Calendar.onMonth d (monthIndex d + months * n) := by
  cases counts with
  | month => rw [Int.one_mul, shift]
  | year => rw [shift]

theorem date_shift (n d : Int) : monthIndex (unit.shift n d) = monthIndex d + months * n ∧
    (Date.ofDay (unit.shift n d)).day =
      min (Date.ofDay d).day (Calendar.monthLength (monthIndex d + months * n)) :=
  Calendar.eq_onMonth_iff.mp (counts.shift_eq n d)

/-- What the month in between is too short for is not made up for by a longer one after it. -/
theorem date_shift_shift (a b d : Int) :
    monthIndex (unit.shift b (unit.shift a d)) = monthIndex d + months * (a + b) ∧
      (Date.ofDay (unit.shift b (unit.shift a d))).day =
        min (Date.ofDay d).day (min (Calendar.monthLength (monthIndex d + months * a))
          (Calendar.monthLength (monthIndex d + months * (a + b)))) := by
  obtain ⟨between, dayBetween⟩ := counts.date_shift a d
  obtain ⟨reached, dayReached⟩ := counts.date_shift b (unit.shift a d)
  rw [between, Int.add_assoc, ← Int.mul_add] at reached dayReached
  exact ⟨reached, by rw [dayReached, dayBetween, Int.min_assoc]⟩

theorem shift_shift_eq_iff (a b d : Int) : unit.shift b (unit.shift a d) = unit.shift (a + b) d ↔
    min (Date.ofDay d).day (Calendar.monthLength (monthIndex d + months * (a + b))) ≤
      Calendar.monthLength (monthIndex d + months * a) := by
  obtain ⟨reached, dayReached⟩ := counts.date_shift_shift a b d
  rw [counts.shift_eq (a + b), Calendar.eq_onMonth_iff, and_iff_right reached, dayReached]
  omega

theorem shift_neg_shift_eq_iff (n d : Int) : unit.shift (-n) (unit.shift n d) = d ↔
    (Date.ofDay d).day ≤ Calendar.monthLength (monthIndex d + months * n) := by
  have same := counts.shift_shift_eq_iff n (-n) d
  -- the month that is returned to is the month of the day, which has room for the day
  rwa [Int.add_right_neg, unit.shift_zero, Int.mul_zero, Int.add_zero,
    Int.min_eq_left (Calendar.dayOfMonth_bounds d).2] at same

end CountsMonths

end CalendarUnit

end RelativeTime
