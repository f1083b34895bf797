import RelativeTime.Calendar

/-!
# Years and months as periods

The index of a year or a month and its first day fit together: every day lies between the first day
of the year around it and the first day of the next, and likewise for months. All of it comes down
to the two formulas for the days before a year and before a month of a year.
-/

namespace RelativeTime.Calendar

/-! ## Years -/

theorem yearStart_yearIndex_le (d : Int) : yearStart (yearIndex d) ≤ d := by
  unfold yearIndex yearStart
  dsimp only
  split <;> omega

theorem lt_yearStart_succ (d : Int) : d < yearStart (yearIndex d + 1) := by
  unfold yearIndex yearStart
  dsimp only
  split <;> omega

/-- A leap year has a day more than the others. -/
theorem yearStart_succ (y : Int) :
    yearStart (y + 1) = yearStart y + if isLeap y then 366 else 365 := by
  unfold yearStart isLeap
  split <;> rename_i leap <;> simp at leap <;> omega

theorem dayOfYear_bounds (d : Int) : 0 ≤ d - yearStart (yearIndex d) ∧
    d - yearStart (yearIndex d) < if isLeap (yearIndex d) then 366 else 365 := by
  have lower := yearStart_yearIndex_le d
  have upper := lt_yearStart_succ d
  rw [yearStart_succ] at upper
  omega

/-! ## Months of a year -/

theorem daysBeforeMonth_zero (leap : Bool) : daysBeforeMonth leap 0 = 0 := by
  cases leap <;> decide

theorem daysBeforeMonth_twelve (leap : Bool) :
    daysBeforeMonth leap 12 = if leap then 366 else 365 := by
  cases leap <;> decide

theorem monthOfYear_bounds {leap : Bool} {r : Int} (lower : 0 ≤ r)
    (upper : r < if leap then 366 else 365) :
    0 ≤ monthOfYear leap r ∧ monthOfYear leap r ≤ 11 := by
  unfold monthOfYear daysBeforeMonth
  cases leap <;> simp at upper ⊢ <;> split <;> omega

/-- A day of the year lies in the month that is computed for it. -/
theorem daysBeforeMonth_monthOfYear {leap : Bool} {r : Int} (lower : 0 ≤ r)
    (upper : r < if leap then 366 else 365) :
    daysBeforeMonth leap (monthOfYear leap r) ≤ r ∧
      r < daysBeforeMonth leap (monthOfYear leap r + 1) := by
  unfold monthOfYear daysBeforeMonth
  cases leap <;> simp at upper ⊢ <;> repeat' split
  all_goals omega

/-! ## Months -/

/-- The thirteenth month of a year is the first of the next. -/
theorem monthStart_add (y : Int) {m : Int} (lower : 0 ≤ m) (upper : m ≤ 12) :
    monthStart (12 * y + m) = yearStart y + daysBeforeMonth (isLeap y) m := by
  unfold monthStart
  by_cases last : m = 12
  · subst last
    have index : (12 * y + 12) / 12 = y + 1 := by omega
    have first : (12 * y + 12) % 12 = 0 := by omega
    rw [index, first, yearStart_succ, daysBeforeMonth_zero, daysBeforeMonth_twelve]
    omega
  · have index : (12 * y + m) / 12 = y := by omega
    have rest : (12 * y + m) % 12 = m := by omega
    rw [index, rest]

/-- The first month of a year starts with the year. -/
theorem monthStart_january (y : Int) : monthStart (12 * y) = yearStart y := by
  have first := monthStart_add y (m := 0) (by decide) (by decide)
  rwa [daysBeforeMonth_zero, Int.add_zero, Int.add_zero] at first

/-- Twelve months make a year. -/
theorem monthIndex_div (d : Int) : monthIndex d / 12 = yearIndex d := by
  obtain ⟨lower, upper⟩ := dayOfYear_bounds d
  have bounds := monthOfYear_bounds lower upper
  simp only [monthIndex]
  omega

/-- A day lies in the month around it. -/
theorem monthStart_monthIndex (d : Int) :
    monthStart (monthIndex d) ≤ d ∧ d < monthStart (monthIndex d + 1) := by
  obtain ⟨lower, upper⟩ := dayOfYear_bounds d
  have bounds := monthOfYear_bounds lower upper
  have days := daysBeforeMonth_monthOfYear lower upper
  simp only [monthIndex]
  rw [Int.add_assoc, monthStart_add _ (by omega) (by omega),
    monthStart_add _ (by omega) (by omega)]
  omega

end RelativeTime.Calendar
