import RelativeTime.Proofs.Moment.CalendarAddition
import RelativeTime.Proofs.Moment.Limits
import RelativeTime.Proofs.Unit.PeriodStarts

/-!
# Where roundings end

On a clock whose offset never changes a moment is rounded to the ends of the period around it on the
wall. The start of the first period is supported, but may be out of reach of universal time; the start
of the period after the last is not even supported. Rounding up goes by way of that start although the
end of the period is a microsecond before it, and with a clock unit by way of the start of the period as
well.
-/

namespace RelativeTime

/-- The error is one with which a unit has no period after the one around day `d`. -/
def TimeUnit.RefusesNext (unit : TimeUnit) (d : Int) (error : TimeError) : Prop :=
  let date := Calendar.Date.ofDay d
  let named := unit = .calendar .month ∧ date.year = 9999 ∧ date.month = 12 ∨
    unit = .calendar .year ∧ date.year = 9999
  (named → error.NamesYear 10000) ∧ (¬ named → error.IsOverflow)

namespace CalendarUnit

variable {unit : CalendarUnit} {d : Int} {error : TimeError}

theorem namesYear_of_refuses (months : unit = .month ∨ unit = .year)
    (year : (Calendar.Date.ofDay d).year = 10000) (refuses : unit.Refuses d error) :
    error.NamesYear 10000 := by
  obtain ⟨named, -⟩ := refuses
  simp only [year] at named
  exact named ⟨months, by decide, rfl⟩

theorem isOverflow_of_refuses (inYears : 1 ≤ (Calendar.Date.ofDay d).year ∧
    (Calendar.Date.ofDay d).year ≤ Calendar.lastYear) (refuses : unit.Refuses d error) :
    error.IsOverflow :=
  (refuses_of_supported (year_supported_iff.mp inYears)).mp refuses

/-- The period after the last month and the one after the last year are the only ones that are refused by
a year. -/
theorem refusesNext_of_refuses (supported : 0 ≤ d ∧ d < Calendar.dayLimit)
    (refuses : unit.Refuses (unit.next d) error) : TimeUnit.RefusesNext (.calendar unit) d error := by
  have inYears := year_supported_iff.mpr supported
  cases unit with
  | day => exact ⟨by simp, fun _ => (refuses_of_days (.inl rfl)).mp refuses⟩
  | week => exact ⟨by simp, fun _ => (refuses_of_days (.inr rfl)).mp refuses⟩
  | month =>
    have next := year_next_month d
    simp only [TimeUnit.RefusesNext, Calendar.Date.ofDay, Calendar.lastYear, true_and,
      TimeUnit.calendar.injEq, reduceCtorEq, false_and, or_false] at inYears ⊢
    constructor
    · rintro ⟨lastYear, december⟩
      exact namesYear_of_refuses (.inl rfl) (by omega) refuses
    · intro earlier
      exact isOverflow_of_refuses (by simp only [next, Calendar.lastYear]; omega) refuses
  | year =>
    have next := year_next_year d
    simp only [TimeUnit.RefusesNext, year_ofDay, Calendar.lastYear, true_and,
      TimeUnit.calendar.injEq, reduceCtorEq, false_and, false_or] at inYears ⊢
    constructor
    · intro lastYear
      exact namesYear_of_refuses (.inr rfl) (by omega) refuses
    · intro earlier
      exact isOverflow_of_refuses (by simp only [next, Calendar.lastYear]; omega) refuses

end CalendarUnit

namespace Moment

variable {zone : Zone} {offset start next : Int} {v : Moment}

/-! ## The period around a moment -/

theorem clock_start_eq {unit : ClockUnit}
    (around : (TimeUnit.clock unit).PeriodAround 1 v.wall start next) :
    v.wall - v.wall % unit.micros = start ∧ start + unit.micros = next := by
  obtain ⟨rfl, rfl⟩ := around.unique (TimeUnit.periodAround_roundAt (by decide) _ _)
  simp only [TimeUnit.roundAt, TimeUnit.startAt, TimeUnit.indexAt, Int.one_mul, Int.add_mul,
    Int.sub_add_cancel, Int.ediv_mul_self, and_self]

theorem calendar_start_eq {unit : CalendarUnit}
    (around : (TimeUnit.calendar unit).PeriodAround 1 v.wall start next) :
    unit.floor v.day * perDay = start ∧ unit.next v.day * perDay = next := by
  obtain ⟨rfl, rfl⟩ := around.unique (TimeUnit.periodAround_roundAt (by decide) _ _)
  simp only [TimeUnit.roundAt, Int.sub_add_cancel]
  exact ⟨rfl, rfl⟩

section

variable (steady : zone.Steady offset) (inZone : v.zone = some zone)
include steady inZone

theorem succeedsIf_round_down {unit : TimeUnit} (around : unit.PeriodAround 1 v.wall start next) :
    SucceedsIf (round unit .down v) (InReach offset start) ⟨start, keptMark unit v, some zone⟩
      (· = .overflow .date) := by
  cases unit with
  | clock unit =>
    obtain ⟨rfl, -⟩ := clock_start_eq around
    change SucceedsIf (clockFloor unit v) _ _ _
    rw [clockFloor, keptMark, inZone]
    exact succeedsIf_normalize_of_steady steady _ _
  | calendar unit =>
    obtain ⟨rfl, -⟩ := calendar_start_eq around
    change SucceedsIf (calendarFloor unit v) _ _ _
    rw [calendarFloor, inZone]
    exact succeedsIf_normalize_of_steady steady _ _

theorem succeedsIf_clockCeil {unit : ClockUnit}
    (around : (TimeUnit.clock unit).PeriodAround 1 v.wall start next) :
    SucceedsIf (clockCeil unit v) (InReach offset start ∧ InReach offset next)
      ⟨next - 1, false, some zone⟩ (· = .overflow .date) := by
  have started := succeedsIf_round_down steady inZone around
  obtain ⟨-, rfl⟩ := clock_start_eq around
  refine (started.bind fun _ => (succeedsIf_elapse_of_steady steady rfl unit.micros).bind fun _ =>
    succeedsIf_elapse_of_steady steady rfl (-1)).congr ?_
  -- the end of the period lies between the two starts, so it is in reach if they are
  have positive := unit.micros_pos
  simp only [InReach, InRange]
  omega

theorem succeedsIf_calendarCeil (inReach : InReach offset v.wall) {unit : CalendarUnit}
    (around : (TimeUnit.calendar unit).PeriodAround 1 v.wall start next) :
    SucceedsIf (calendarCeil unit v) (InReach offset next) ⟨next - 1, false, some zone⟩
      (unit.Refuses (unit.next v.day)) := by
  have later := around.next.1.2
  obtain ⟨-, rfl⟩ := calendar_start_eq around
  have ended : SucceedsIf (do let next ← startOfDay (some zone) (unit.next v.day); next.justBefore)
      (InReach offset (unit.next v.day * perDay))
      ⟨unit.next v.day * perDay - 1, false, some zone⟩ (· = .overflow .date) := by
    refine ((succeedsIf_normalize_of_steady steady _ _).bind fun _ =>
      succeedsIf_elapse_of_steady steady rfl (-1)).congr ?_
    -- the end of the period is not before the moment, which is in reach
    simp only [InReach, InRange] at inReach ⊢
    omega
  rw [calendarCeil, inZone]
  refine ((unit.succeedsIf_next? v.day).bind fun supported => ended.isOverflow.mono fun error _ =>
    (CalendarUnit.refuses_of_supported supported).mpr).congr
    (and_iff_right_of_imp fun reached => ?_)
  obtain ⟨reached, -⟩ := reached
  simp only [InRange, wallLimit, perDay, perSecond] at reached
  omega

theorem succeedsIf_round_up (inReach : InReach offset v.wall) {unit : TimeUnit}
    (around : unit.PeriodAround 1 v.wall start next) :
    SucceedsIf (round unit .up v)
      (InReach offset next ∧ ∀ clock, unit = .clock clock → InReach offset start)
      ⟨next - 1, false, some zone⟩ (unit.RefusesNext v.day) := by
  cases unit with
  | clock unit =>
    have succeeds := succeedsIf_clockCeil steady inZone around
    refine (succeeds.isOverflow.congr ?_).mono fun error _ overflow => ?_
    · simp [and_comm]
    · exact ⟨by simp, fun _ => overflow⟩
  | calendar unit =>
    have succeeds := succeedsIf_calendarCeil steady inZone inReach around
    refine (succeeds.congr ?_).mono fun error _ refuses => ?_
    · simp
    · exact CalendarUnit.refusesNext_of_refuses (day_supported inReach.1) refuses

end

/-- Rounding down fails if the start of the period around the moment is before the supported years in
universal time. Rounding up fails if the start of the next period is out of reach, and with a unit of the
clock also if the start of the period is. No result is marked, unless a moment of universal time already
is. The error names the year 10000 in the last month and the last
year, and is an overflow otherwise. So on the clock of universal time every moment can be rounded down,
and every moment that is not in the last period can be rounded up. -/
theorem roundings_fail_at_ends {zone : Zone} {offset : Int} (steady : zone.Steady offset) {v : Moment}
    (inZone : v.zone = some zone) (inReach : InReach offset v.wall) (unit : TimeUnit) :
    ∃ start next, unit.PeriodAround 1 v.wall start next ∧
      SucceedsIf (round unit .down v) (0 ≤ start - offset * perSecond)
        ⟨start, keptMark unit v, some zone⟩ TimeError.IsOverflow ∧
      SucceedsIf (round unit .up v)
        (InReach offset next ∧ ∀ clock, unit = .clock clock → InReach offset start)
        ⟨next - 1, false, some zone⟩ (unit.RefusesNext v.day) ∧
      (offset = 0 → (∃ w, round unit .down v = .ok w) ∧
        ((∃ error, round unit .up v = .error error) ↔
          unit.PeriodAround 1 (wallLimit - 1) start next)) := by
  have around := unit.periodAround_roundAt (by decide : 0 < (1 : Int)) v.wall
  refine ⟨_, _, around, ?_⟩
  generalize unit.roundAt 1 .down v.wall = start, unit.roundAt 1 .up v.wall + 1 = next at around ⊢
  obtain ⟨⟨-, begun⟩, -⟩ := around.start
  obtain ⟨⟨-, notEnded⟩, -⟩ := around.next
  have nonneg := around.start_nonneg inReach.1.1
  -- the start is supported, and not after the moment in universal time
  have startInReach : InReach offset start ↔ 0 ≤ start - offset * perSecond := by
    simp only [InReach, InRange] at inReach ⊢
    omega
  have down := (succeedsIf_round_down steady inZone around).congr startInReach
  have up := succeedsIf_round_up steady inZone inReach around
  refine ⟨down.isOverflow, up, ?_⟩
  rintro rfl
  refine ⟨⟨_, down.success (by omega)⟩, ?_⟩
  rw [up.exists_error_iff, around.around_iff,
    and_iff_left fun _ _ => startInReach.mpr (by omega)]
  simp only [InReach, InRange] at inReach ⊢
  omega

/-- 14:30 on January 1st of the year 1 on the clocks of `fourteenAhead`, half an hour after universal time
has begun. -/
def firstAfternoon : Moment :=
  ⟨52200 * perSecond, false, some fourteenAhead⟩

/-- The last microsecond that the clocks of `fourteenAhead` show. -/
def lastShown : Moment :=
  ⟨wallLimit - 1, false, some fourteenAhead⟩

/-- The hour of the first afternoon has a start in reach, its day has none. After the last microsecond the
next month is refused by its year, and the next week by an overflow. -/
theorem round_at_both_ends :
    fourteenAhead.Steady 50400 ∧ firstAfternoon.zone = some fourteenAhead ∧
      InReach 50400 firstAfternoon.wall ∧
      round (.clock .hour) .down firstAfternoon =
        .ok ⟨50400 * perSecond, false, some fourteenAhead⟩ ∧
      (∃ error, round (.calendar .day) .down firstAfternoon = .error error ∧ error.IsOverflow) ∧
      lastShown.zone = some fourteenAhead ∧ InReach 50400 lastShown.wall ∧
      (∃ error, round (.calendar .month) .up lastShown = .error error ∧ error.NamesYear 10000) ∧
      ∃ error, round (.calendar .week) .up lastShown = .error error ∧ error.IsOverflow := by
  have bounds : ∀ (unit : TimeUnit) (wall : Int), unit.PeriodAround 1 wall
      (unit.roundAt 1 .down wall) (unit.roundAt 1 .up wall + 1) :=
    TimeUnit.periodAround_roundAt (by decide)
  have first : InReach 50400 firstAfternoon.wall := by decide
  have last : InReach 50400 lastShown.wall := by decide
  obtain ⟨_, _, around, hour, -⟩ := roundings_fail_at_ends steady_fourteenAhead rfl first (.clock .hour)
  obtain ⟨rfl, -⟩ := around.unique (bounds _ _)
  obtain ⟨_, _, around, day, -⟩ := roundings_fail_at_ends steady_fourteenAhead rfl first (.calendar .day)
  obtain ⟨rfl, -⟩ := around.unique (bounds _ _)
  obtain ⟨_, _, around, -, month, -⟩ :=
    roundings_fail_at_ends steady_fourteenAhead rfl last (.calendar .month)
  obtain ⟨-, rfl⟩ := around.unique (bounds _ _)
  obtain ⟨_, _, around, -, week, -⟩ :=
    roundings_fail_at_ends steady_fourteenAhead rfl last (.calendar .week)
  obtain ⟨-, rfl⟩ := around.unique (bounds _ _)
  obtain ⟨error, refused, named, -⟩ := month.refusal fun reached => absurd reached.1 (by decide)
  obtain ⟨error', refused', -, overflow⟩ := week.refusal fun reached => absurd reached.1 (by decide)
  exact ⟨steady_fourteenAhead, rfl, first, hour.success (by decide), day.refusal (by decide), rfl, last,
    ⟨error, refused, named (by decide)⟩, error', refused', overflow (by decide)⟩

end Moment

end RelativeTime
