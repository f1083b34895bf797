import RelativeTime.TimeError
import RelativeTime.Unit

/-!
# Calendar units within the supported years

Moving a day by calendar periods can leave the supported years, and an amount can be too large to be
tried at all. Months and years are refused by the year that they lead to, days and weeks by the
number of days.
-/

namespace RelativeTime

namespace CalendarUnit

/-- Refuses to move day `d` by an amount that is too large for the unit. -/
def checkShift (unit : CalendarUnit) (amount d : Int) : Except TimeError Unit :=
  match unit with
  | .day => checkSpan amount
  | .week => checkSpan (7 * amount)
  | .month => checkYear ((Calendar.monthIndex d + amount) / 12 + 1)
  | .year => checkYear (Calendar.yearIndex d + amount + 1)

def shift? (unit : CalendarUnit) (amount d : Int) : Except TimeError Int := do
  unit.checkShift amount d
  checkDay (unit.shift amount d)

/-- The first day after the period around day `d`. The month or year after the last supported one is
refused by its year. -/
def next? (unit : CalendarUnit) (d : Int) : Except TimeError Int := do
  match unit with
  | .day | .week => pure ()
  | .month => checkYear ((Calendar.monthIndex d + 1) / 12 + 1)
  | .year => checkYear (Calendar.yearIndex d + 2)
  checkDay (unit.next d)

theorem eq_of_shift?_eq_ok {unit : CalendarUnit} {amount d d' : Int}
    (shifted : unit.shift? amount d = .ok d') : d' = unit.shift amount d := by
  obtain ⟨_, -, supported⟩ := bind_eq_ok_iff.mp shifted
  exact (checkDay_eq_ok_iff.mp supported).2

theorem eq_of_next?_eq_ok {unit : CalendarUnit} {d first : Int} (next : unit.next? d = .ok first) :
    first = unit.next d := by
  have checked : checkDay (unit.next d) = .ok first := by
    cases unit with
    | day | week => exact next
    | month | year => exact (bind_eq_ok_iff.mp next).choose_spec.2
  exact (checkDay_eq_ok_iff.mp checked).2

/-- Where the next period starts depends on nothing but the period. -/
theorem next?_eq_of_index_eq {unit : CalendarUnit} {d d' : Int}
    (same : unit.index d = unit.index d') : unit.next? d = unit.next? d' := by
  have next : unit.next d = unit.next d' := congrArg (fun k => unit.start (k + 1)) same
  cases unit with
  | day | week => exact congrArg checkDay next
  | month =>
    change (do checkYear ((Calendar.monthIndex d + 1) / 12 + 1); checkDay _) = _
    rw [show Calendar.monthIndex d = Calendar.monthIndex d' from same, next]
    rfl
  | year =>
    change (do checkYear (Calendar.yearIndex d + 2); checkDay _) = _
    rw [show Calendar.yearIndex d = Calendar.yearIndex d' from same, next]
    rfl

end CalendarUnit

end RelativeTime
