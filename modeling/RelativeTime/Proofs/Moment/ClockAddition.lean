import RelativeTime.Proofs.Moment.ClockRounding
import RelativeTime.Proofs.Moment.FirstReading

/-!
# Adding clock units

A clock unit added to a moment elapses from the instant that the moment stands for, and what comes out
is the local form of the instant at which it has elapsed. No change of the clocks between the two
matters, so amounts add up, and going back by an amount returns to the instant. The moment itself need
not be a local form: it can be either showing of a repeated wall time, or a skipped one with either
mark.
-/

namespace RelativeTime

namespace Moment

variable {zone : Zone} {unit : ClockUnit} {v w x y : Moment} {m n : Int}

/-- Adding succeeds if the time to elapse is not too long and both instants lie in the supported
years, the later one on the wall clock as well. -/
theorem clockAdd_eq_ok_iff (inZone : v.zone = some zone) : add (.clock unit) v n = .ok w ↔
    (n * unit.micros / perDay).natAbs ≤ 999999999 ∧ InRange v.instant ∧
      InRange (v.instant + n * unit.micros) ∧
      InRange (ofInstant zone (v.instant + n * unit.micros)).wall ∧
      w = ofInstant zone (v.instant + n * unit.micros) := by
  change clockAdd unit v n = .ok w ↔ _
  rw [clockAdd, bind_eq_ok_iff, elapse_eq_ok_iff inZone, ofInstant?_eq_ok_iff]
  constructor
  · rintro ⟨_, span, result⟩
    exact ⟨checkSpan_eq_ok_iff.mp span, result⟩
  · rintro ⟨span, result⟩
    exact ⟨(), checkSpan_eq_ok_iff.mpr span, result⟩

theorem eq_of_clockAdd (inZone : v.zone = some zone) (added : add (.clock unit) v n = .ok w) :
    w = ofInstant zone (v.instant + n * unit.micros) := by
  obtain ⟨-, -, -, -, result⟩ := (clockAdd_eq_ok_iff inZone).mp added
  exact result

theorem clockAdd_zero {u : Int} (spaced : zone.Spaced) (shown : ofInstant? zone u = .ok v) :
    add (.clock unit) v 0 = .ok v := by
  obtain ⟨inRange, wallInRange, rfl⟩ := ofInstant?_eq_ok_iff.mp shown
  rw [clockAdd_eq_ok_iff rfl, instant_ofInstant spaced, Int.zero_mul, Int.add_zero]
  exact ⟨by decide, inRange, inRange, wallInRange, rfl⟩

section

variable (spaced : zone.Spaced) (inZone : v.zone = some zone)
include spaced inZone

theorem instant_clockAdd (added : add (.clock unit) v n = .ok w) :
    w.instant = v.instant + n * unit.micros := by
  rw [eq_of_clockAdd inZone added, instant_ofInstant spaced]

/-- Amounts that are added one after the other add up. -/
theorem eq_of_clockAdd_clockAdd (added : add (.clock unit) v m = .ok w)
    (again : add (.clock unit) w n = .ok x) (both : add (.clock unit) v (m + n) = .ok y) :
    x = y := by
  have inZone' := (localIn_of_add inZone added).zone_eq
  rw [eq_of_clockAdd inZone' again, eq_of_clockAdd inZone both,
    instant_clockAdd spaced inZone added, Int.add_mul, Int.add_assoc]

end

/-- Adding a clock unit lets its length elapse as often as the amount says, and returns the local form
of the instant that is reached, marked exactly if its wall time was shown before. Amounts add up, a
negative amount takes a positive one back, and zero stays at the instant. -/
theorem clock_add_elapses (spaced : zone.Spaced) (unit : ClockUnit) {v : Moment}
    (inZone : v.zone = some zone) :
    (∀ n w, add (.clock unit) v n = .ok w →
      w.instant = v.instant + n * unit.micros ∧ w = ofInstant zone w.instant ∧
        (w.secondPass = true ↔ ∃ earlier < w.instant, (ofInstant zone earlier).wall = w.wall)) ∧
    (∀ m n w x y, add (.clock unit) v m = .ok w → add (.clock unit) w n = .ok x →
      add (.clock unit) v (m + n) = .ok y → x = y) ∧
    (∀ n w x, add (.clock unit) v n = .ok w → add (.clock unit) w (-n) = .ok x →
      x.instant = v.instant) ∧
    (∀ w, add (.clock unit) v 0 = .ok w → w.instant = v.instant) := by
  refine ⟨fun n w added => ?_, fun m n w x y added again both => ?_, fun n w x added back => ?_,
    fun w added => ?_⟩
  · have reached := instant_clockAdd spaced inZone added
    have shown := eq_of_clockAdd inZone added
    rw [← reached] at shown
    refine ⟨reached, shown, ?_⟩
    rw [shown, instant_ofInstant spaced]
    exact secondPass_iff_shown_before spaced
  · exact eq_of_clockAdd_clockAdd spaced inZone added again both
  · have inZone' := (localIn_of_add inZone added).zone_eq
    rw [instant_clockAdd spaced inZone' back, instant_clockAdd spaced inZone added, Int.neg_mul,
      Int.add_neg_cancel_right]
  · rw [instant_clockAdd spaced inZone added, Int.zero_mul, Int.add_zero]

/-- What the clocks of `hourChanges` would show at 02:30 on March 31st, which they skip, read with the
offset after the change. -/
def skippedHalfPastTwo : Moment :=
  ⟨(epoch1970 + 1711852200) * perSecond, true, some hourChanges⟩

/-- From the skipped 02:30 it is 5041 hours to the second showing of 02:30 on October 27th, across both
changes, and back again. -/
theorem add_hours_from_skipped :
    hourChanges.Spaced ∧ skippedHalfPastTwo.zone = some hourChanges ∧
      add (.clock .hour) skippedHalfPastTwo 5041 =
        .ok (ofInstant hourChanges ((epoch1970 + 1729992600) * perSecond)) ∧
      (ofInstant hourChanges ((epoch1970 + 1729992600) * perSecond)).instant =
        skippedHalfPastTwo.instant + 5041 * ClockUnit.hour.micros ∧
      (ofInstant hourChanges ((epoch1970 + 1729992600) * perSecond)).secondPass = true ∧
      add (.clock .hour) (ofInstant hourChanges ((epoch1970 + 1729992600) * perSecond)) (-5041) =
        .ok (ofInstant hourChanges ((epoch1970 + 1711845000) * perSecond)) ∧
      (ofInstant hourChanges ((epoch1970 + 1711845000) * perSecond)).instant =
        skippedHalfPastTwo.instant := by
  have added : add (.clock .hour) skippedHalfPastTwo 5041 =
      .ok (ofInstant hourChanges ((epoch1970 + 1729992600) * perSecond)) := rfl
  have back : add (.clock .hour) (ofInstant hourChanges ((epoch1970 + 1729992600) * perSecond))
      (-5041) = .ok (ofInstant hourChanges ((epoch1970 + 1711845000) * perSecond)) := rfl
  obtain ⟨elapsed, -, returned, -⟩ :=
    clock_add_elapses spaced_hourChanges .hour (v := skippedHalfPastTwo) rfl
  exact ⟨spaced_hourChanges, rfl, added, (elapsed _ _ added).1, by decide, back,
    returned _ _ _ added back⟩

end Moment

end RelativeTime
