import Mathlib.Order.Bounds.Basic
import RelativeTime.Proofs.Moment.CalendarRounding
import RelativeTime.Proofs.Stamp.Truncation
import RelativeTime.Proofs.Zone.HourlyChanges

/-!
# Rounding stamps to calendar periods

The bounds of a calendar period are midnights, and which instant a midnight is can depend on the stamp
that is rounded: of a midnight that is shown twice the first showing is taken if daylight saving time is
in force at the stamp, and the second otherwise (`Stamp.instantOf_midnight_of_repeats`). The first showing
is where the period starts. So the stamps of one period are rounded alike, and to its ends, as long as
the midnight is not repeated; where it is, those with the one mark go to the end of the period and the
others an hour past it.
-/

namespace RelativeTime

theorem Zone.ChangesByHours.keepsMidnights {zone : Zone} (hourly : zone.ChangesByHours) :
    zone.KeepsMidnights := by
  intro t d
  -- one hour between whole hours has a midnight at its ends at most
  constructor
  · intro inside
    have := hourly.eq_of_skips inside.skips (by omega)
    have := inside.1
    omega
  · intro inside
    have := hourly.eq_of_repeats ⟨Int.le_of_lt inside.1, inside.2⟩ (by omega)
    have := inside.1
    omega

namespace Stamp

/-- The index of the calendar period around the local date of the stamp. -/
def localPeriod (unit : CalendarUnit) (v : Stamp) : Int :=
  unit.index (v.wall / perDay)

/-- If the midnight of day `d` is shown twice, daylight saving time is in force at the stamp. -/
def TakesFirst (zone : Zone) (v : Stamp) (d : Int) : Prop :=
  v.period.isDst = true ∨ ∀ t, ¬ zone.Repeats t (86400 * d)

/-- The nanosecond of universal time that the midnight of day `d` is first read as. -/
def dayStart (zone : Zone) (d : Int) : Int :=
  zone.firstReading (86400 * d) * perSecond

variable {zone : Zone} {unit : CalendarUnit} {v start stop : Stamp} {d k t : Int}

/-! ## Midnights -/

theorem second_midnight (d : Int) : d * perDay / perSecond = 86400 * d := by
  simp only [perDay, perSecond]
  omega

section

variable (spaced : zone.Spaced) (hourly : zone.ChangesByHours)
include spaced hourly

theorem instantOf_midnight_of_not_repeats (unrepeated : ∀ t, ¬ zone.Repeats t (86400 * d))
    (isFirst : Bool) : instantOf zone (d * perDay) isFirst = dayStart zone d := by
  by_cases unskipped : ∀ t, ¬ zone.Skips t (86400 * d)
  · have shown := spaced.local_firstReading unskipped
    have once := spaced.shownOnce_of_not_repeats shown unrepeated
    have reading := spaced.readsBack.reading_of_shownOnce once shown
    rw [instantOf_of_reading_once ((congrArg zone.reading (second_midnight d)).trans reading), dayStart]
    simp only [perDay, perSecond]
    omega
  · -- the midnight that the clock was to show at the change is read as the change
    obtain ⟨t, skips⟩ := not_forall_not.mp unskipped
    have atChange := hourly.eq_of_skips skips (by omega)
    have reading := (spaced.offsetAt_firstReading_of_skips skips).2.2
    rw [← second_midnight] at skips
    rw [instantOf_of_skips spaced skips, dayStart, reading, atChange, Int.add_sub_cancel]

theorem instantOf_midnight_of_repeats (repeats : zone.Repeats t (86400 * d)) (isFirst : Bool) :
    instantOf zone (d * perDay) isFirst =
      dayStart zone d + if isFirst then 0 else 3600 * perSecond := by
  have byHour := hourly.offsetAt_of_repeats repeats
  have reading : zone.firstReading (86400 * d) = 86400 * d - zone.offsetAt (t - 1) := by
    rw [Zone.firstReading, Zone.wallOffset, spaced.reading_of_repeats repeats]
    rfl
  rw [← second_midnight] at repeats
  rw [instantOf_of_repeats spaced repeats, dayStart, reading]
  cases isFirst <;> simp only [perDay, perSecond, if_true, if_false, Bool.false_eq_true] <;> omega

/-- The midnight of a day is read as the start of the day, unless the stamp takes the second showing. -/
theorem instantOf_midnight_eq_dayStart_iff (v : Stamp) (d : Int) :
    instantOf zone (d * perDay) v.period.isDst = dayStart zone d ↔ TakesFirst zone v d := by
  by_cases unrepeated : ∀ t, ¬ zone.Repeats t (86400 * d)
  · exact iff_of_true (instantOf_midnight_of_not_repeats spaced hourly unrepeated _) (.inr unrepeated)
  · obtain ⟨t, repeats⟩ := not_forall_not.mp unrepeated
    rw [instantOf_midnight_of_repeats spaced hourly repeats, TakesFirst, or_iff_left unrepeated]
    have hour : dayStart zone d + 3600 * perSecond ≠ dayStart zone d := by
      simp only [perSecond]
      omega
    cases v.period.isDst with
    | true => exact iff_of_true (Int.add_zero _) rfl
    | false => exact iff_of_false hour Bool.false_ne_true

theorem instantOf_midnight_eq_iff (v v' : Stamp) (d : Int) :
    instantOf zone (d * perDay) v'.period.isDst = instantOf zone (d * perDay) v.period.isDst ↔
      v'.period.isDst = v.period.isDst ∨ ∀ t, ¬ zone.Repeats t (86400 * d) := by
  by_cases unrepeated : ∀ t, ¬ zone.Repeats t (86400 * d)
  · refine iff_of_true ?_ (.inr unrepeated)
    rw [instantOf_midnight_of_not_repeats spaced hourly unrepeated,
      instantOf_midnight_of_not_repeats spaced hourly unrepeated]
  · obtain ⟨t, repeats⟩ := not_forall_not.mp unrepeated
    rw [instantOf_midnight_of_repeats spaced hourly repeats,
      instantOf_midnight_of_repeats spaced hourly repeats, or_iff_left unrepeated]
    cases v.period.isDst <;> cases v'.period.isDst <;>
      simp only [if_true, if_false, Bool.false_eq_true, perSecond, reduceCtorEq, iff_false] <;> omega

/-! ## The instants of a period -/

/-- The instants of a period are those from the start of its first day up to that of the next period. -/
theorem localPeriod_eq_iff (inZone : v.zone = some zone) : localPeriod unit v = k ↔
    dayStart zone (unit.start k) ≤ v.count ∧ v.count < dayStart zone (unit.start (k + 1)) := by
  have truncates : TruncatesTo zone False v (Moment.ofInstant zone (v.count / 1000)) :=
    ⟨inZone, rfl, False.elim⟩
  have samePeriod : localPeriod unit v = Moment.localPeriod zone unit (v.count / 1000) := by
    rw [localPeriod, Moment.localPeriod, truncates.day_eq]
  rw [samePeriod, Moment.localPeriod_eq_iff spaced hourly.keepsMidnights]
  simp only [Moment.dayStart, Moment.perSecond, dayStart, perSecond]
  omega

theorem mem_period_iff (inZone : v.zone = some zone) (w : Int) :
    localPeriod unit { v with count := w } = localPeriod unit v ↔
      dayStart zone (unit.floor (v.wall / perDay)) ≤ w ∧
        w < dayStart zone (unit.next (v.wall / perDay)) :=
  localPeriod_eq_iff spaced hourly (v := { v with count := w }) inZone

theorem isLeast_periodStart (inZone : v.zone = some zone) :
    IsLeast {w | localPeriod unit { v with count := w } = localPeriod unit v}
      (dayStart zone (unit.floor (v.wall / perDay))) := by
  obtain ⟨begun, notEnded⟩ := (mem_period_iff spaced hourly inZone v.count).mp rfl
  constructor
  · exact (mem_period_iff spaced hourly inZone _).mpr
      ⟨Int.le_refl _, Int.lt_of_le_of_lt begun notEnded⟩
  · intro w member
    exact ((mem_period_iff spaced hourly inZone w).mp member).1

theorem isGreatest_periodEnd (inZone : v.zone = some zone) :
    IsGreatest {w | localPeriod unit { v with count := w } = localPeriod unit v}
      (dayStart zone (unit.next (v.wall / perDay)) - 1) := by
  obtain ⟨begun, notEnded⟩ := (mem_period_iff spaced hourly inZone v.count).mp rfl
  constructor
  · exact (mem_period_iff spaced hourly inZone _).mpr
      ⟨Int.le_sub_one_of_lt (Int.lt_of_le_of_lt begun notEnded), Int.sub_one_lt_of_le (Int.le_refl _)⟩
  · intro w member
    exact Int.le_sub_one_of_lt ((mem_period_iff spaced hourly inZone w).mp member).2

end

/-! ## Rounding -/

/-- A bound of a calendar period is the end of the period exactly if daylight saving time is in force at
the stamp that is rounded or the midnight there is shown once at most. Two stamps of one period have the
same bounds exactly if daylight saving time is in force at both or neither or the midnight is shown once
at most. -/
theorem calendar_round_follows_dst (spaced : zone.Spaced) (hourly : zone.ChangesByHours)
    (unit : CalendarUnit) {v : Stamp} (inZone : v.zone = some zone) :
    (∀ start, round (.calendar unit) .down v = .ok start →
      (IsLeast {w | localPeriod unit { v with count := w } = localPeriod unit v} start.count ↔
        TakesFirst zone v (unit.floor (v.wall / perDay))) ∧
      ∀ v' start', v'.zone = some zone → localPeriod unit v' = localPeriod unit v →
        round (.calendar unit) .down v' = .ok start' →
          (start'.count = start.count ↔ v'.period.isDst = v.period.isDst ∨
            ∀ t, ¬ zone.Repeats t (86400 * unit.floor (v.wall / perDay)))) ∧
    (∀ stop, round (.calendar unit) .up v = .ok stop →
      (IsGreatest {w | localPeriod unit { v with count := w } = localPeriod unit v} stop.count ↔
        TakesFirst zone v (unit.next (v.wall / perDay))) ∧
      ∀ v' stop', v'.zone = some zone → localPeriod unit v' = localPeriod unit v →
        round (.calendar unit) .up v' = .ok stop' →
          (stop'.count = stop.count ↔ v'.period.isDst = v.period.isDst ∨
            ∀ t, ¬ zone.Repeats t (86400 * unit.next (v.wall / perDay)))) := by
  constructor
  · intro start down
    have count : start.count = instantOf zone (unit.floor (v.wall / perDay) * perDay) _ :=
      congrArg Stamp.count (eq_of_calendarFloor inZone down)
    refine ⟨?_, fun v' start' inZone' samePeriod down' => ?_⟩
    · rw [count, ← instantOf_midnight_eq_dayStart_iff spaced hourly]
      have isLeast : IsLeast {w | localPeriod unit { v with count := w } = localPeriod unit v} _ :=
        isLeast_periodStart spaced hourly inZone
      exact ⟨fun least => least.unique isLeast, fun same => by rwa [← same] at isLeast⟩
    · have count' : start'.count = instantOf zone (unit.floor (v'.wall / perDay) * perDay) _ :=
        congrArg Stamp.count (eq_of_calendarFloor inZone' down')
      have sameFloor : unit.floor (v'.wall / perDay) = unit.floor (v.wall / perDay) :=
        congrArg unit.start samePeriod
      rw [count, count', sameFloor]
      exact instantOf_midnight_eq_iff spaced hourly v v' _
  · intro stop up
    have count : stop.count = instantOf zone (unit.next (v.wall / perDay) * perDay) _ - 1 :=
      congrArg Stamp.count (eq_of_calendarCeil inZone up)
    refine ⟨?_, fun v' stop' inZone' samePeriod up' => ?_⟩
    · rw [count, ← instantOf_midnight_eq_dayStart_iff spaced hourly]
      have isGreatest :
          IsGreatest {w | localPeriod unit { v with count := w } = localPeriod unit v} _ :=
        isGreatest_periodEnd spaced hourly inZone
      refine ⟨fun greatest => ?_, fun same => by rwa [← same] at isGreatest⟩
      have := greatest.unique isGreatest
      omega
    · have count' : stop'.count = instantOf zone (unit.next (v'.wall / perDay) * perDay) _ - 1 :=
        congrArg Stamp.count (eq_of_calendarCeil inZone' up')
      have sameNext : unit.next (v'.wall / perDay) = unit.next (v.wall / perDay) :=
        congrArg (fun k => unit.start (k + 1)) samePeriod
      rw [count, count', sameNext, ← instantOf_midnight_eq_iff spaced hourly v v']
      omega

theorem changesByHours_midnightChanges : Moment.midnightChanges.ChangesByHours :=
  Zone.changesByHours_ofTable (by decide)

/-- On the day whose midnight is repeated, half an hour after the first showing of midnight is still
rounded down to it, and up to the end of the day. -/
theorem round_stamp_before_set_back :
    Moment.midnightChanges.Spaced ∧ Moment.midnightChanges.ChangesByHours ∧
      Moment.midnightChanges.Repeats (epoch1970 + 1730610000)
        (86400 * CalendarUnit.day.floor ((atSecond Moment.midnightChanges 1730608200).wall / perDay)) ∧
      round (.calendar .day) .down (atSecond Moment.midnightChanges 1730608200) =
        .ok (atSecond Moment.midnightChanges 1730606400) ∧
      IsLeast {w | localPeriod .day ⟨w, false, some Moment.midnightChanges⟩ =
          localPeriod .day (atSecond Moment.midnightChanges 1730608200)}
        (atSecond Moment.midnightChanges 1730606400).count ∧
      round (.calendar .day) .up (atSecond Moment.midnightChanges 1730608200) =
        .ok ⟨(epoch1970 + 1730696400) * perSecond - 1, true, some Moment.midnightChanges⟩ ∧
      IsGreatest {w | localPeriod .day ⟨w, false, some Moment.midnightChanges⟩ =
          localPeriod .day (atSecond Moment.midnightChanges 1730608200)}
        ((epoch1970 + 1730696400) * perSecond - 1) := by
  have down : round (.calendar .day) .down (atSecond Moment.midnightChanges 1730608200) =
      .ok (atSecond Moment.midnightChanges 1730606400) := rfl
  have up : round (.calendar .day) .up (atSecond Moment.midnightChanges 1730608200) =
      .ok ⟨(epoch1970 + 1730696400) * perSecond - 1, true, some Moment.midnightChanges⟩ := rfl
  have summer : (atSecond Moment.midnightChanges 1730608200).period.isDst = true := by decide
  obtain ⟨downwards, upwards⟩ := calendar_round_follows_dst Moment.spaced_midnightChanges
    changesByHours_midnightChanges .day (v := atSecond Moment.midnightChanges 1730608200) rfl
  exact ⟨Moment.spaced_midnightChanges, changesByHours_midnightChanges, ⟨by decide, by decide⟩, down,
    (downwards _ down).1.mpr (.inl summer), up, (upwards _ up).1.mpr (.inl summer)⟩

/-- From noon of that day rounding down comes to the second showing of midnight, an hour after the day
has begun. -/
theorem round_stamp_after_set_back :
    Moment.midnightChanges.Spaced ∧ Moment.midnightChanges.ChangesByHours ∧
      localPeriod .day (atSecond Moment.midnightChanges 1730653200) =
        localPeriod .day (atSecond Moment.midnightChanges 1730608200) ∧
      round (.calendar .day) .down (atSecond Moment.midnightChanges 1730608200) =
        .ok (atSecond Moment.midnightChanges 1730606400) ∧
      round (.calendar .day) .down (atSecond Moment.midnightChanges 1730653200) =
        .ok (atSecond Moment.midnightChanges 1730610000) ∧
      (atSecond Moment.midnightChanges 1730610000).count ≠
        (atSecond Moment.midnightChanges 1730606400).count ∧
      ¬ IsLeast {w | localPeriod .day ⟨w, false, some Moment.midnightChanges⟩ =
          localPeriod .day (atSecond Moment.midnightChanges 1730653200)}
        (atSecond Moment.midnightChanges 1730610000).count := by
  refine ⟨Moment.spaced_midnightChanges, changesByHours_midnightChanges, by decide, rfl, rfl, by decide,
    fun least => ?_⟩
  have earlier : (atSecond Moment.midnightChanges 1730610000).count ≤
      (atSecond Moment.midnightChanges 1730606400).count := least.2 (show _ = _ by decide)
  exact absurd earlier (by decide)

end Stamp

end RelativeTime
