import RelativeTime.Proofs.Moment.UnitScales

/-!
# Adding months in steps

On a clock whose offset never changes adding months or years is a matter of the date alone, and the time
of day stays. Two steps lead to the same month as both at once. But a day that a short month in between
has no room for is cut off, and stays cut off. So the steps come to the same day as both at once exactly
if the month in between is long enough for it, and going there and back restores a moment exactly if the
month that it goes to has room for its day.
-/

namespace RelativeTime

open Calendar (Date)

namespace Moment

variable {zone : Zone} {offset n d d' : Int} {unit : CalendarUnit} {v w : Moment}

/-! ## Days and times of day -/

/-- The moment at its time of day on day `d`, in the first showing. -/
def movedTo (v : Moment) (d : Int) : Moment :=
  { v with wall := v.onDay d, secondPass := false }

theorem day_movedTo (v : Moment) (d : Int) : (v.movedTo d).day = d := by
  simp only [movedTo, day, onDay, timeOfDay, perDay, perSecond]
  omega

theorem timeOfDay_movedTo (v : Moment) (d : Int) : (v.movedTo d).timeOfDay = v.timeOfDay := by
  simp only [movedTo, onDay, timeOfDay, perDay, perSecond]
  omega

theorem movedTo_movedTo (v : Moment) (d d' : Int) : (v.movedTo d).movedTo d' = v.movedTo d' := by
  rw [movedTo, onDay, timeOfDay_movedTo]
  rfl

theorem movedTo_day (v : Moment) : v.movedTo v.day = { v with secondPass := false } := by
  rw [movedTo, onDay_day]

theorem movedTo_eq_movedTo_iff : v.movedTo d = v.movedTo d' ↔ d = d' := by
  constructor
  · intro same
    rw [← v.day_movedTo d, same, v.day_movedTo]
  · rintro rfl
    rfl

/-! ## Steps -/

theorem eq_movedTo_of_add (steady : zone.Steady offset) (inZone : v.zone = some zone)
    (added : add (.calendar unit) v n = .ok w) : w = v.movedTo (unit.shift n v.day) := by
  obtain ⟨d, moved, read⟩ := bind_eq_ok_iff.mp (show calendarAdd unit v n = .ok w from added)
  obtain rfl := CalendarUnit.eq_of_shift?_eq_ok moved
  rw [inZone] at read
  rw [(succeedsIf_normalize_of_steady steady _ _).eq_of_ok read, movedTo, inZone, onDay, Bool.false_and]

theorem eq_movedTo_of_add_add (steady : zone.Steady offset) (inZone : v.zone = some zone)
    {a b : Int} {between twice : Moment} (first : add (.calendar unit) v a = .ok between)
    (second : add (.calendar unit) between b = .ok twice) :
    twice = v.movedTo (unit.shift b (unit.shift a v.day)) := by
  obtain rfl := eq_movedTo_of_add steady inZone first
  rw [eq_movedTo_of_add (v := v.movedTo _) steady inZone second, movedTo_movedTo, day_movedTo]

/-- Months or years that are added in two steps lead to the month that both lead to at once, at the same
time of day. The day of the month is the one before, or the length of the month in between or of the
month that is reached if that is less. So the steps come to what both at once come to exactly if the month
in between has room for that day. Going there and back comes to the moment again, without a mark, of which
there is no use on such a clock, exactly if the month there has room for its day. -/
theorem month_steps_compose {zone : Zone} {offset : Int} (steady : zone.Steady offset)
    {unit : CalendarUnit} {months : Int} (counts : unit.CountsMonths months) {v : Moment}
    (inZone : v.zone = some zone) :
    let month := Calendar.monthIndex v.day
    let day := (Date.ofDay v.day).day
    let lengthAfter := fun n => Calendar.monthLength (month + months * n)
    (∀ a b between twice, add (.calendar unit) v a = .ok between →
      add (.calendar unit) between b = .ok twice →
        Calendar.monthIndex twice.day = month + months * (a + b) ∧
        twice.timeOfDay = v.timeOfDay ∧
        (Date.ofDay twice.day).day = min day (min (lengthAfter a) (lengthAfter (a + b))) ∧
        ∀ once, add (.calendar unit) v (a + b) = .ok once →
          Calendar.monthIndex twice.day = Calendar.monthIndex once.day ∧
          twice.timeOfDay = once.timeOfDay ∧
          (twice = once ↔ min day (lengthAfter (a + b)) ≤ lengthAfter a)) ∧
    (∀ n there back, add (.calendar unit) v n = .ok there → add (.calendar unit) there (-n) = .ok back →
      (back = { v with secondPass := false } ↔ day ≤ lengthAfter n)) := by
  intro month day lengthAfter
  constructor
  · intro a b between twice first second
    obtain rfl := eq_movedTo_of_add_add steady inZone first second
    obtain ⟨reached, dayReached⟩ := counts.date_shift_shift a b v.day
    rw [day_movedTo, timeOfDay_movedTo]
    refine ⟨reached, rfl, dayReached, fun once both => ?_⟩
    obtain rfl := eq_movedTo_of_add steady inZone both
    rw [day_movedTo, timeOfDay_movedTo, reached, (counts.date_shift (a + b) v.day).1,
      movedTo_eq_movedTo_iff]
    exact ⟨rfl, rfl, counts.shift_shift_eq_iff a b v.day⟩
  · intro n there back out home
    obtain rfl := eq_movedTo_of_add_add steady inZone out home
    rw [← movedTo_day, movedTo_eq_movedTo_iff]
    exact counts.shift_neg_shift_eq_iff n v.day

/-- From January 31st, 2024, a month and another one lead to March 29th, and two at once to the 31st. A leap
day goes to February 28th of the next year, and comes back to the 28th. -/
theorem step_over_february :
    fourteenAhead.Steady 50400 ∧ (midnightOf ⟨2024, 1, 31⟩).zone = some fourteenAhead ∧
      CalendarUnit.month.CountsMonths 1 ∧
      add (.calendar .month) (midnightOf ⟨2024, 1, 31⟩) 1 = .ok (midnightOf ⟨2024, 2, 29⟩) ∧
      add (.calendar .month) (midnightOf ⟨2024, 2, 29⟩) 1 = .ok (midnightOf ⟨2024, 3, 29⟩) ∧
      add (.calendar .month) (midnightOf ⟨2024, 1, 31⟩) 2 = .ok (midnightOf ⟨2024, 3, 31⟩) ∧
      (Date.ofDay (midnightOf ⟨2024, 3, 29⟩).day).day = min 31 (min 29 31) ∧
      midnightOf ⟨2024, 3, 29⟩ ≠ midnightOf ⟨2024, 3, 31⟩ ∧
      (midnightOf ⟨2024, 2, 29⟩).zone = some fourteenAhead ∧ CalendarUnit.year.CountsMonths 12 ∧
      add (.calendar .year) (midnightOf ⟨2024, 2, 29⟩) 1 = .ok (midnightOf ⟨2025, 2, 28⟩) ∧
      add (.calendar .year) (midnightOf ⟨2025, 2, 28⟩) (-1) = .ok (midnightOf ⟨2024, 2, 28⟩) ∧
      midnightOf ⟨2024, 2, 28⟩ ≠ midnightOf ⟨2024, 2, 29⟩ := by
  have first : add (.calendar .month) (midnightOf ⟨2024, 1, 31⟩) 1 = .ok (midnightOf ⟨2024, 2, 29⟩) := rfl
  have second : add (.calendar .month) (midnightOf ⟨2024, 2, 29⟩) 1 = .ok (midnightOf ⟨2024, 3, 29⟩) := rfl
  have both : add (.calendar .month) (midnightOf ⟨2024, 1, 31⟩) 2 = .ok (midnightOf ⟨2024, 3, 31⟩) := rfl
  have there : add (.calendar .year) (midnightOf ⟨2024, 2, 29⟩) 1 = .ok (midnightOf ⟨2025, 2, 28⟩) := rfl
  have back : add (.calendar .year) (midnightOf ⟨2025, 2, 28⟩) (-1) = .ok (midnightOf ⟨2024, 2, 28⟩) := rfl
  obtain ⟨steps, -⟩ := month_steps_compose steady_fourteenAhead .month
    (rfl : (midnightOf ⟨2024, 1, 31⟩).zone = some fourteenAhead)
  obtain ⟨-, -, day, once⟩ := steps 1 1 _ _ first second
  obtain ⟨-, -, same⟩ := once _ both
  obtain ⟨-, restored⟩ := month_steps_compose steady_fourteenAhead .year
    (rfl : (midnightOf ⟨2024, 2, 29⟩).zone = some fourteenAhead)
  exact ⟨steady_fourteenAhead, rfl, .month, first, second, both, day,
    fun equal => absurd (same.mp equal) (by decide), rfl, .year, there, back,
    fun equal => absurd ((restored 1 _ _ there back).mp equal) (by decide)⟩

end Moment

end RelativeTime
