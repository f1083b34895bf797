import RelativeTime.Proofs.Moment.LocalForm
import RelativeTime.Proofs.Zone.Table

/-!
# Rounding to clock periods

Rounding down to a clock unit takes off what the wall clock shows beyond whole units and keeps the
mark for a second showing; rounding up then lets the length of the unit elapse. The first happens on
the wall clock and the second in universal time. They agree when every change happens at a whole unit
of the clock before it and of the clock after it, since then the instants between the two bounds have
no change among them (`Moment.unchanged_within`): the offset and the mark are the same for all.
-/

namespace RelativeTime

/-- Wherever the offset changes, the clock shows whole units just before the change and just after. -/
def Zone.AlignedTo (zone : Zone) (unit : ClockUnit) : Prop :=
  ∀ t : Int, zone.ChangesAt t →
    unit.micros ∣ (t + zone.offsetAt (t - 1)) * Moment.perSecond ∧
      unit.micros ∣ (t + zone.offsetAt t) * Moment.perSecond

namespace Moment

/-- The instant `u` less what the wall clock shows beyond whole units. -/
def clockStart (zone : Zone) (unit : ClockUnit) (u : Int) : Int :=
  u - (ofInstant zone u).wall % unit.micros

variable {zone : Zone} {unit : ClockUnit} {u w t : Int}

/-! ## Periods of the clock -/

theorem clockStart_bounds (zone : Zone) (unit : ClockUnit) (u : Int) :
    clockStart zone unit u ≤ u ∧ u < clockStart zone unit u + unit.micros := by
  have lower := Int.emod_nonneg (ofInstant zone u).wall (Int.ne_of_gt unit.micros_pos)
  have upper := Int.emod_lt_of_pos (ofInstant zone u).wall unit.micros_pos
  rw [clockStart]
  omega

/-- The wall clock shows whole units at the start of a period. -/
theorem micros_dvd_clockStart (zone : Zone) (unit : ClockUnit) (u : Int) :
    unit.micros ∣ clockStart zone unit u + zone.offsetAt (u / perSecond) * perSecond := by
  have whole : unit.micros ∣ (ofInstant zone u).wall - (ofInstant zone u).wall % unit.micros :=
    Int.dvd_self_sub_emod
  have same : clockStart zone unit u + zone.offsetAt (u / perSecond) * perSecond =
      (ofInstant zone u).wall - (ofInstant zone u).wall % unit.micros := by
    simp only [clockStart, ofInstant]
    omega
  rwa [same]

/-- Whole units follow each other at the distance of the unit. -/
theorem add_micros_le_of_lt {m n : Int} (whole : unit.micros ∣ m) (whole' : unit.micros ∣ n)
    (less : m < n) : m + unit.micros ≤ n := by
  have := Int.le_of_dvd (by omega) (Int.dvd_sub whole' whole)
  omega

theorem micros_le_hour (unit : ClockUnit) : unit.micros ≤ 3600 * perSecond := by
  cases unit <;> decide

section

variable (spaced : zone.Spaced) (aligned : zone.AlignedTo unit)
include spaced aligned

/-- A period of the clock has no change in it but at its start. -/
theorem unchanged_within (lower : clockStart zone unit u < t * perSecond)
    (upper : t * perSecond < clockStart zone unit u + unit.micros) : ¬ zone.ChangesAt t := by
  intro changes
  obtain ⟨begun, notEnded⟩ := clockStart_bounds zone unit u
  have short := micros_le_hour unit
  simp only [perSecond] at lower upper short
  -- the offset at `u` is one of the two at the change, by whichever side `u` is on
  have turns : zone.Turns (clockStart zone unit u / 1000000)
      ((clockStart zone unit u + unit.micros - 1) / 1000000) t _ _ :=
    spaced.turns_at changes (by omega) (by omega) (by omega)
  have atChange : unit.micros ∣ (t + zone.offsetAt (u / perSecond)) * perSecond := by
    rcases Int.lt_or_le (u / perSecond) t with early | late
    · rw [turns.offset_before _ (by simp only [perSecond]; omega) early]
      exact (aligned t changes).1
    · rw [turns.offset_after _ late (by simp only [perSecond]; omega)]
      exact (aligned t changes).2
  have := add_micros_le_of_lt (micros_dvd_clockStart zone unit u) atChange
    (by simp only [perSecond]; omega)
  simp only [perSecond] at this
  omega

theorem offsetAt_within (lower : clockStart zone unit u ≤ w)
    (upper : w < clockStart zone unit u + unit.micros) :
    zone.offsetAt (w / perSecond) = zone.offsetAt (u / perSecond) := by
  have steady : ∀ x, clockStart zone unit u ≤ x → x < clockStart zone unit u + unit.micros →
      zone.offsetAt (x / perSecond) = zone.offsetAt (clockStart zone unit u / perSecond) := by
    intro x begun notEnded
    refine Zone.offsetAt_eq_of_unchanged (by simp only [perSecond]; omega) fun t after upto => ?_
    exact unchanged_within (u := u) spaced aligned (by simp only [perSecond] at *; omega)
      (by simp only [perSecond] at *; omega)
  obtain ⟨begun, notEnded⟩ := clockStart_bounds zone unit u
  exact (steady w lower upper).trans (steady u begun notEnded).symm

/-- The instants of a period of the clock have the same period. -/
theorem clockStart_within (lower : clockStart zone unit u ≤ w)
    (upper : w < clockStart zone unit u + unit.micros) :
    clockStart zone unit w = clockStart zone unit u := by
  obtain ⟨begun, notEnded⟩ := clockStart_bounds zone unit w
  have whole := micros_dvd_clockStart zone unit u
  have whole' := micros_dvd_clockStart zone unit w
  rw [offsetAt_within spaced aligned lower upper] at whole'
  rcases Int.lt_trichotomy (clockStart zone unit w) (clockStart zone unit u) with
    earlier | same | later
  · have := add_micros_le_of_lt whole' whole (by omega)
    omega
  · exact same
  · have := add_micros_le_of_lt whole whole' (by omega)
    omega

/-- If one instant of a period is a second showing, the others are. -/
theorem isSecondPass_of_within (second : zone.isSecondPass (u / perSecond) = true)
    (lower : clockStart zone unit u ≤ w) (upper : w < clockStart zone unit u + unit.micros) :
    zone.isSecondPass (w / perSecond) = true := by
  obtain ⟨t, late, changes, unchanged, -, notYet⟩ := spaced.exists_change_of_isSecondPass second
  obtain ⟨begun, notEnded⟩ := clockStart_bounds zone unit u
  have within : ∀ t', clockStart zone unit u < t' * perSecond →
      t' * perSecond < clockStart zone unit u + unit.micros → ¬ zone.ChangesAt t' :=
    fun t' => unchanged_within spaced aligned
  have beforeStart : t * perSecond ≤ clockStart zone unit u := by
    refine Int.not_lt.mp fun inside => within t inside ?_ changes
    simp only [perSecond] at *
    omega
  refine (spaced.isSecondPass_iff _).mpr ⟨t, ?_, fun t' after upto changes' => ?_, ?_⟩
  · simp only [perSecond] at *
    omega
  · by_cases early : t' ≤ u / perSecond
    · exact unchanged t' after early changes'
    · refine within t' ?_ ?_ changes' <;> simp only [perSecond] at * <;> omega
  · -- the old clock reaches the change at a whole unit, so not within the period
    rw [offsetAt_within spaced aligned lower upper]
    have := add_micros_le_of_lt (micros_dvd_clockStart zone unit u) (aligned t changes).1
      (by simp only [perSecond] at *; omega)
    simp only [perSecond] at *
    omega

theorem isSecondPass_within (lower : clockStart zone unit u ≤ w)
    (upper : w < clockStart zone unit u + unit.micros) :
    zone.isSecondPass (w / perSecond) = zone.isSecondPass (u / perSecond) := by
  have same := clockStart_within spaced aligned lower upper
  obtain ⟨begun, notEnded⟩ := clockStart_bounds zone unit u
  rw [Bool.eq_iff_iff]
  refine ⟨fun second => ?_, fun second => isSecondPass_of_within spaced aligned second lower upper⟩
  rw [← same] at begun notEnded
  exact isSecondPass_of_within spaced aligned second begun notEnded

/-! ## Rounding -/

/-- Flooring the wall clock stays under the same offset. -/
theorem clockFloor_eq : clockFloor unit (ofInstant zone u) =
    ofInstant? zone (clockStart zone unit u) := by
  have positive := unit.micros_pos
  have offset : zone.offsetAt (clockStart zone unit u / perSecond) = zone.offsetAt (u / perSecond) :=
    offsetAt_within spaced aligned (Int.le_refl _) (by omega)
  have mark : zone.isSecondPass (clockStart zone unit u / perSecond) =
      zone.isSecondPass (u / perSecond) :=
    isSecondPass_within spaced aligned (Int.le_refl _) (by omega)
  -- the floored wall time with the mark of the moment is the local form of the start
  have floored : ({ ofInstant zone u with
      wall := (ofInstant zone u).wall - (ofInstant zone u).wall % unit.micros } : Moment) =
        ofInstant zone (clockStart zone unit u) := by
    simp only [ofInstant, offset, mark, Moment.mk.injEq, and_true]
    simp only [clockStart, ofInstant]
    omega
  rw [clockFloor, floored, normalize_ofInstant, instant_ofInstant spaced]

end

/-- Rounding up starts with rounding down. -/
theorem clockCeil_eq_of_clockFloor_eq {v v' : Moment}
    (same : clockFloor unit v = clockFloor unit v') : clockCeil unit v = clockCeil unit v' := by
  rw [clockCeil, clockCeil, same]

/-- The length of the unit elapses from the result of rounding down, but for a microsecond. -/
theorem clockCeil_of_readsBack (readsBack : zone.ReadsBack) {start : Int} {v stop : Moment}
    (floor : clockFloor unit v = ofInstant? zone start) (rounded : clockCeil unit v = .ok stop) :
    clockFloor unit v = .ok (ofInstant zone start) ∧
      stop = ofInstant zone (start + unit.micros - 1) := by
  obtain ⟨_, floored, elapsed⟩ := bind_eq_ok_iff.mp rounded
  obtain rfl := eq_of_ofInstant? (floor.symm.trans floored)
  obtain ⟨_, next, before⟩ := bind_eq_ok_iff.mp elapsed
  obtain rfl := eq_of_ofInstant? (elapse_of_readsBack readsBack next)
  exact ⟨floored, eq_of_ofInstant? (elapse_of_readsBack readsBack before)⟩

theorem clockCeil_eq_ok (spaced : zone.Spaced) {start : Int} {v stop : Moment}
    (floor : clockFloor unit v = ofInstant? zone start) (rounded : clockCeil unit v = .ok stop) :
    clockFloor unit v = .ok (ofInstant zone start) ∧
      stop = ofInstant zone (start + unit.micros - 1) :=
  clockCeil_of_readsBack spaced.readsBack floor rounded

section

variable (spaced : zone.Spaced) (aligned : zone.AlignedTo unit)
include spaced aligned

/-- Rounding down is the same within a period of the clock. -/
theorem clockFloor_within (lower : clockStart zone unit u ≤ w)
    (upper : w < clockStart zone unit u + unit.micros) :
    clockFloor unit (ofInstant zone w) = clockFloor unit (ofInstant zone u) := by
  rw [clockFloor_eq spaced aligned, clockFloor_eq spaced aligned,
    clockStart_within spaced aligned lower upper]

/-- The last microsecond of a period of the clock is rounded up to itself. -/
theorem clockCeil_clockCeil {stop : Moment} (rounded : clockCeil unit (ofInstant zone u) = .ok stop) :
    clockCeil unit stop = .ok stop := by
  have positive := unit.micros_pos
  obtain ⟨-, rfl⟩ := clockCeil_eq_ok spaced (clockFloor_eq spaced aligned) rounded
  have same := clockFloor_within spaced aligned (u := u)
    (w := clockStart zone unit u + unit.micros - 1) (by omega) (by omega)
  exact (clockCeil_eq_of_clockFloor_eq same).trans rounded

end

/-- Offsets and changes are whole seconds. -/
theorem alignedTo_of_dvd_second (zone : Zone) (whole : unit.micros ∣ perSecond) :
    zone.AlignedTo unit :=
  fun _ _ => ⟨Int.dvd_mul_of_dvd_right whole, Int.dvd_mul_of_dvd_right whole⟩

/-- Rounding down takes off what the wall clock shows beyond whole units and keeps the offset. Rounding
up goes on from there for the length of the unit, but for a microsecond. Both bounds enclose the moment
and are rounded to themselves, and all instants between them have the same bounds. -/
theorem clock_round_to_period_ends (spaced : zone.Spaced) (unit : ClockUnit)
    (aligned : unit = .minute ∨ unit = .hour → zone.AlignedTo unit) (u : Int) :
    (ofInstant zone u).instant = u ∧
    (∀ start, round (.clock unit) .down (ofInstant zone u) = .ok start →
      start.instant = u - (ofInstant zone u).wall % unit.micros ∧
        start.offset? = (ofInstant zone u).offset? ∧ start.instant ≤ u ∧
        round (.clock unit) .down start = .ok start) ∧
    (∀ stop, round (.clock unit) .up (ofInstant zone u) = .ok stop →
      (∃ start, round (.clock unit) .down (ofInstant zone u) = .ok start ∧
          stop.instant = start.instant + unit.micros - 1 ∧
          ∀ w, start.instant ≤ w → w ≤ stop.instant → ∀ direction,
            round (.clock unit) direction (ofInstant zone w) =
              round (.clock unit) direction (ofInstant zone u)) ∧
        u ≤ stop.instant ∧ round (.clock unit) .up stop = .ok stop) := by
  have aligned : zone.AlignedTo unit := by
    cases unit with
    | millisecond | second => exact alignedTo_of_dvd_second zone (by decide)
    | minute => exact aligned (.inl rfl)
    | hour => exact aligned (.inr rfl)
  have floor := clockFloor_eq (u := u) spaced aligned
  obtain ⟨begun, notEnded⟩ := clockStart_bounds zone unit u
  refine ⟨instant_ofInstant spaced u, fun start rounded => ?_, fun stop rounded => ?_⟩
  · obtain rfl := eq_of_ofInstant? (floor.symm.trans rounded)
    rw [instant_ofInstant spaced, offset?_ofInstant spaced, offset?_ofInstant spaced,
      offsetAt_within spaced aligned (Int.le_refl _) (by omega)]
    exact ⟨rfl, rfl, begun,
      (clockFloor_within spaced aligned (Int.le_refl _) (by omega)).trans rounded⟩
  · obtain ⟨floored, rfl⟩ := clockCeil_eq_ok spaced floor rounded
    rw [instant_ofInstant spaced]
    refine ⟨⟨_, floored, ?_, fun w lower upper direction => ?_⟩, by omega,
      clockCeil_clockCeil spaced aligned rounded⟩
    · rw [instant_ofInstant spaced]
    · rw [instant_ofInstant spaced] at lower
      have same := clockFloor_within spaced aligned lower (by omega)
      cases direction with
      | down => exact same
      | up => exact clockCeil_eq_of_clockFloor_eq same

/-- Clocks that go from 02:00 to 03:00 on March 31st, 2024 and from 03:00 back to 02:00 on October
27th. -/
def hourChanges : Zone :=
  .ofTable ⟨3600, by decide, by decide⟩ [
    ⟨epoch1970 + 1711846800, ⟨⟨7200, by decide, by decide⟩, true⟩⟩,
    ⟨epoch1970 + 1729990800, ⟨⟨3600, by decide, by decide⟩, false⟩⟩]

theorem spaced_hourChanges : hourChanges.Spaced :=
  Zone.spaced_ofTable (by decide)

theorem alignedTo_hourChanges : hourChanges.AlignedTo .hour := by
  intro t changes
  obtain ⟨change, member, rfl⟩ := Zone.exists_mem_of_changesAt changes
  simp only [List.mem_cons, List.not_mem_nil, or_false] at member
  obtain rfl | rfl := member <;> decide

/-- The second showing of 02:45 is rounded within the second showing of its hour. -/
theorem round_hour_second_pass :
    hourChanges.Spaced ∧ hourChanges.AlignedTo .hour ∧
      (ofInstant hourChanges ((epoch1970 + 1729993500) * perSecond)).secondPass = true ∧
      round (.clock .hour) .down (ofInstant hourChanges ((epoch1970 + 1729993500) * perSecond)) =
        .ok (ofInstant hourChanges ((epoch1970 + 1729990800) * perSecond)) ∧
      round (.clock .hour) .down (ofInstant hourChanges ((epoch1970 + 1729990800) * perSecond)) =
        .ok (ofInstant hourChanges ((epoch1970 + 1729990800) * perSecond)) ∧
      round (.clock .hour) .up (ofInstant hourChanges ((epoch1970 + 1729993500) * perSecond)) =
        .ok (ofInstant hourChanges ((epoch1970 + 1729994400) * perSecond - 1)) ∧
      round (.clock .hour) .up (ofInstant hourChanges ((epoch1970 + 1729994400) * perSecond - 1)) =
        .ok (ofInstant hourChanges ((epoch1970 + 1729994400) * perSecond - 1)) := by
  have down : round (.clock .hour) .down
      (ofInstant hourChanges ((epoch1970 + 1729993500) * perSecond)) =
        .ok (ofInstant hourChanges ((epoch1970 + 1729990800) * perSecond)) := rfl
  have up : round (.clock .hour) .up
      (ofInstant hourChanges ((epoch1970 + 1729993500) * perSecond)) =
        .ok (ofInstant hourChanges ((epoch1970 + 1729994400) * perSecond - 1)) := rfl
  obtain ⟨-, downwards, upwards⟩ := clock_round_to_period_ends spaced_hourChanges .hour
    (fun _ => alignedTo_hourChanges) ((epoch1970 + 1729993500) * perSecond)
  exact ⟨spaced_hourChanges, alignedTo_hourChanges, by decide, down, (downwards _ down).2.2.2, up,
    (upwards _ up).2.2⟩

end Moment

end RelativeTime
