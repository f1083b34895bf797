import Mathlib.Order.Bounds.Defs
import RelativeTime.Proofs.Moment.LocalForm
import RelativeTime.Proofs.Unit.Periods
import RelativeTime.Proofs.Zone.Table

/-!
# Rounding to calendar periods

Rounding a moment to a calendar unit goes to the midnight that starts the period around its day, or
to the microsecond before the midnight that starts the next. What instant these are depends on the
zone, in which the midnight may be skipped or shown twice. As long as a stretch that is skipped or
repeated has midnights only at its ends, a day has begun by an instant exactly if its midnight was
first read no later (`Moment.dayStart_le_iff`), so the instants of a period are those from its first
midnight up to that of the next, and rounding goes to their ends.
-/

namespace RelativeTime

/-- A stretch that a change skips or repeats has no midnight strictly inside. Its ends may be
midnights. -/
def Zone.KeepsMidnights (zone : Zone) : Prop :=
  ∀ t d : Int, ¬ zone.SkipsInside t (86400 * d) ∧ ¬ zone.RepeatsInside t (86400 * d)

namespace Moment

/-- The microsecond of universal time that the midnight of day `d` is first read as. -/
def dayStart (zone : Zone) (d : Int) : Int :=
  zone.firstReading (86400 * d) * perSecond

/-- The index of the calendar period around the local date at microsecond `u` of universal time. -/
def localPeriod (zone : Zone) (unit : CalendarUnit) (u : Int) : Int :=
  unit.index (ofInstant zone u).day

variable {zone : Zone} {unit : CalendarUnit} {u d k : Int}

/-! ## The start of a day -/

theorem startOfDay_eq (zone : Zone) (d : Int) :
    startOfDay (some zone) d = ofInstant? zone (dayStart zone d) := by
  have second : d * perDay / perSecond = 86400 * d := by
    simp only [perDay, perSecond]
    omega
  have instant : (⟨d * perDay, false, some zone⟩ : Moment).instant = dayStart zone d := by
    change d * perDay - zone.wallOffset (d * perDay / perSecond) false * perSecond = _
    rw [second, dayStart, Zone.firstReading]
    simp only [perDay, perSecond]
    omega
  rw [← instant]
  exact normalize_eq rfl (by simp)

theorem le_day_iff :
    d ≤ (ofInstant zone u).day ↔ 86400 * d ≤ u / perSecond + zone.offsetAt (u / perSecond) := by
  rw [← wall_ofInstant_div, day]
  simp only [perDay, perSecond]
  omega

theorem dayStart_le_iff_firstReading_le :
    dayStart zone d ≤ u ↔ zone.firstReading (86400 * d) ≤ u / perSecond := by
  simp only [dayStart, perSecond]
  omega

/-- A day has begun by an instant exactly if its midnight was first read no later. -/
theorem dayStart_le_iff (spaced : zone.Spaced) (keeps : zone.KeepsMidnights) :
    dayStart zone d ≤ u ↔ d ≤ (ofInstant zone u).day := by
  rw [le_day_iff, dayStart_le_iff_firstReading_le]
  exact spaced.firstReading_le_iff fun t => keeps t d

/-! ## The instants of a period -/

theorem periodStart_le_iff (spaced : zone.Spaced) (keeps : zone.KeepsMidnights) :
    dayStart zone (unit.start k) ≤ u ↔ k ≤ localPeriod zone unit u := by
  rw [dayStart_le_iff spaced keeps, unit.start_le_iff, localPeriod]

/-- The instants of a period are those from its first midnight up to that of the next period. -/
theorem localPeriod_eq_iff (spaced : zone.Spaced) (keeps : zone.KeepsMidnights) :
    localPeriod zone unit u = k ↔
      dayStart zone (unit.start k) ≤ u ∧ u < dayStart zone (unit.start (k + 1)) := by
  have begun : _ ↔ k ≤ localPeriod zone unit u := periodStart_le_iff spaced keeps
  have ended : _ ↔ k + 1 ≤ localPeriod zone unit u := periodStart_le_iff spaced keeps
  omega

theorem isLeast_periodStart (spaced : zone.Spaced) (keeps : zone.KeepsMidnights) :
    IsLeast {w | localPeriod zone unit w = localPeriod zone unit u}
      (dayStart zone (unit.start (localPeriod zone unit u))) := by
  obtain ⟨begun, notEnded⟩ := (localPeriod_eq_iff spaced keeps).mp (rfl : localPeriod zone unit u = _)
  refine ⟨(localPeriod_eq_iff spaced keeps).mpr ⟨Int.le_refl _, by omega⟩, fun w same => ?_⟩
  exact ((localPeriod_eq_iff spaced keeps).mp same).1

theorem isGreatest_periodEnd (spaced : zone.Spaced) (keeps : zone.KeepsMidnights) :
    IsGreatest {w | localPeriod zone unit w = localPeriod zone unit u}
      (dayStart zone (unit.start (localPeriod zone unit u + 1)) - 1) := by
  obtain ⟨begun, notEnded⟩ := (localPeriod_eq_iff spaced keeps).mp (rfl : localPeriod zone unit u = _)
  refine ⟨(localPeriod_eq_iff spaced keeps).mpr ⟨by omega, by omega⟩, fun w same => ?_⟩
  have := ((localPeriod_eq_iff spaced keeps).mp same).2
  omega

theorem isLeast_nextPeriod (spaced : zone.Spaced) (keeps : zone.KeepsMidnights) :
    IsLeast {w | localPeriod zone unit u < localPeriod zone unit w}
      (dayStart zone (unit.start (localPeriod zone unit u + 1))) := by
  constructor
  · exact (periodStart_le_iff spaced keeps).mp (Int.le_refl _)
  · intro w later
    exact (periodStart_le_iff spaced keeps).mpr later

/-! ## Rounding -/

theorem round_down_eq (zone : Zone) (unit : CalendarUnit) (u : Int) :
    round (.calendar unit) .down (ofInstant zone u) =
      ofInstant? zone (dayStart zone (unit.start (localPeriod zone unit u))) :=
  startOfDay_eq zone _

/-- Rounding up arrives just before the next period starts. -/
theorem round_up_of_readsBack (readsBack : zone.ReadsBack) {stop : Moment}
    (rounded : round (.calendar unit) .up (ofInstant zone u) = .ok stop) :
    stop = ofInstant zone (dayStart zone (unit.start (localPeriod zone unit u + 1)) - 1) := by
  obtain ⟨first, next, shown⟩ := bind_eq_ok_iff.mp rounded
  obtain rfl := CalendarUnit.eq_of_next?_eq_ok next
  obtain ⟨midnight, started, before⟩ := bind_eq_ok_iff.mp shown
  obtain rfl := eq_of_ofInstant? ((startOfDay_eq zone _).symm.trans started)
  exact eq_of_ofInstant? (elapse_of_readsBack readsBack before)

theorem eq_of_round_up (spaced : zone.Spaced) {stop : Moment}
    (rounded : round (.calendar unit) .up (ofInstant zone u) = .ok stop) :
    stop = ofInstant zone (dayStart zone (unit.start (localPeriod zone unit u + 1)) - 1) :=
  round_up_of_readsBack spaced.readsBack rounded

/-- Rounding sees no more of a moment than its period. -/
theorem round_eq_of_localPeriod_eq {w : Int}
    (same : localPeriod zone unit w = localPeriod zone unit u) (direction : Direction) :
    round (.calendar unit) direction (ofInstant zone w) =
      round (.calendar unit) direction (ofInstant zone u) := by
  cases direction with
  | down => rw [round_down_eq, round_down_eq, same]
  | up =>
    change (do let first ← unit.next? (ofInstant zone w).day; _) =
      (do let first ← unit.next? (ofInstant zone u).day; _)
    rw [CalendarUnit.next?_eq_of_index_eq same]
    rfl

/-- Rounding goes to the first and the last instant of the local calendar period. Both bounds enclose
the moment and are rounded to themselves, the period after the last instant is the next that there
is, and all moments of a period have the same bounds. -/
theorem calendar_round_to_period_ends (spaced : zone.Spaced) (keeps : zone.KeepsMidnights)
    (unit : CalendarUnit) (u : Int) :
    (ofInstant zone u).instant = u ∧
    (∀ start, round (.calendar unit) .down (ofInstant zone u) = .ok start →
      IsLeast {w | localPeriod zone unit w = localPeriod zone unit u} start.instant ∧
        start.instant ≤ u ∧ round (.calendar unit) .down start = .ok start) ∧
    (∀ stop, round (.calendar unit) .up (ofInstant zone u) = .ok stop →
      IsGreatest {w | localPeriod zone unit w = localPeriod zone unit u} stop.instant ∧
        u ≤ stop.instant ∧ round (.calendar unit) .up stop = .ok stop ∧
        IsLeast {w | localPeriod zone unit u < localPeriod zone unit w} (stop.instant + 1)) ∧
    (∀ w, localPeriod zone unit w = localPeriod zone unit u → ∀ direction,
      round (.calendar unit) direction (ofInstant zone w) =
        round (.calendar unit) direction (ofInstant zone u)) := by
  refine ⟨instant_ofInstant spaced u, fun start rounded => ?_, fun stop rounded => ?_,
    fun w same direction => round_eq_of_localPeriod_eq same direction⟩
  · have isLeast : IsLeast {w | localPeriod zone unit w = localPeriod zone unit u} _ :=
      isLeast_periodStart spaced keeps
    obtain rfl := eq_of_ofInstant? ((round_down_eq zone unit u).symm.trans rounded)
    rw [instant_ofInstant spaced]
    exact ⟨isLeast, isLeast.2 rfl, (round_eq_of_localPeriod_eq isLeast.1 .down).trans rounded⟩
  · have isGreatest : IsGreatest {w | localPeriod zone unit w = localPeriod zone unit u} _ :=
      isGreatest_periodEnd spaced keeps
    obtain rfl := eq_of_round_up spaced rounded
    rw [instant_ofInstant spaced, Int.sub_add_cancel]
    exact ⟨isGreatest, isGreatest.2 rfl,
      (round_eq_of_localPeriod_eq isGreatest.1 .up).trans rounded, isLeast_nextPeriod spaced keeps⟩

/-- Clocks that go from midnight to 01:00 on March 10th, 2024 and from 01:00 back to midnight on
November 3rd. -/
def midnightChanges : Zone :=
  .ofTable ⟨-18000, by decide, by decide⟩ [
    ⟨epoch1970 + 1710046800, ⟨⟨-14400, by decide, by decide⟩, true⟩⟩,
    ⟨epoch1970 + 1730610000, ⟨⟨-18000, by decide, by decide⟩, false⟩⟩]

theorem spaced_midnightChanges : midnightChanges.Spaced :=
  Zone.spaced_ofTable (by decide)

theorem keepsMidnights_midnightChanges : midnightChanges.KeepsMidnights := by
  intro t d
  rw [Zone.SkipsInside, Zone.RepeatsInside]
  by_cases changes : midnightChanges.ChangesAt t
  · obtain ⟨change, member, rfl⟩ := Zone.exists_mem_of_changesAt changes
    simp only [List.mem_cons, List.not_mem_nil, or_false] at member
    obtain rfl | rfl := member
    · have before : midnightChanges.offsetAt (epoch1970 + 1710046800 - 1) = -18000 := by decide
      have after : midnightChanges.offsetAt (epoch1970 + 1710046800) = -14400 := by decide
      simp only [before, after]
      simp only [epoch1970]
      omega
    · have before : midnightChanges.offsetAt (epoch1970 + 1730610000 - 1) = -14400 := by decide
      have after : midnightChanges.offsetAt (epoch1970 + 1730610000) = -18000 := by decide
      simp only [before, after]
      simp only [epoch1970]
      omega
  · rw [Zone.ChangesAt, Decidable.not_not] at changes
    rw [changes]
    omega

/-- The day without a midnight starts with the change, and ends like any other. -/
theorem round_day_without_midnight :
    midnightChanges.Spaced ∧ midnightChanges.KeepsMidnights ∧
      round (.calendar .day) .down
          (ofInstant midnightChanges ((epoch1970 + 1710090000) * perSecond)) =
        .ok (ofInstant midnightChanges ((epoch1970 + 1710046800) * perSecond)) ∧
      IsLeast {w | localPeriod midnightChanges .day w =
          localPeriod midnightChanges .day ((epoch1970 + 1710090000) * perSecond)}
        ((epoch1970 + 1710046800) * perSecond) ∧
      round (.calendar .day) .up
          (ofInstant midnightChanges ((epoch1970 + 1710090000) * perSecond)) =
        .ok (ofInstant midnightChanges ((epoch1970 + 1710129600) * perSecond - 1)) ∧
      IsGreatest {w | localPeriod midnightChanges .day w =
          localPeriod midnightChanges .day ((epoch1970 + 1710090000) * perSecond)}
        ((epoch1970 + 1710129600) * perSecond - 1) := by
  have down : round (.calendar .day) .down
      (ofInstant midnightChanges ((epoch1970 + 1710090000) * perSecond)) =
        .ok (ofInstant midnightChanges ((epoch1970 + 1710046800) * perSecond)) := rfl
  have up : round (.calendar .day) .up
      (ofInstant midnightChanges ((epoch1970 + 1710090000) * perSecond)) =
        .ok (ofInstant midnightChanges ((epoch1970 + 1710129600) * perSecond - 1)) := rfl
  obtain ⟨-, isLeast, isGreatest, -⟩ := calendar_round_to_period_ends spaced_midnightChanges
    keepsMidnights_midnightChanges .day ((epoch1970 + 1710090000) * perSecond)
  exact ⟨spaced_midnightChanges, keepsMidnights_midnightChanges, down, (isLeast _ down).1, up,
    (isGreatest _ up).1⟩

end Moment

end RelativeTime
