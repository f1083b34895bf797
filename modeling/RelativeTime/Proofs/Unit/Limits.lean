import RelativeTime.Proofs.Unit.Shifting
import RelativeTime.Unit.Checked

/-!
# Where the supported years end

Each step towards a result may refuse to go on, and when it does is a matter of one condition.
`SucceedsIf` says of an outcome what the condition is, which value there is if it holds, and what the
error is like if it does not. Two steps in a row keep this form (`SucceedsIf.bind`), so the limits of an
operation are put together from those of its steps.

A day outside the supported years is an overflow. Where months or years lead there, the error is about
the number of the year instead, as long as that fits 32 bits.
-/

namespace RelativeTime

open Calendar (Date)

/-- The outcome is the value if the condition holds, and an error of the described kind if it does not. -/
structure SucceedsIf {ε α : Type} (outcome : Except ε α) (condition : Prop) (value : α)
    (Refuses : ε → Prop) : Prop where
  success : condition → outcome = .ok value
  refusal : ¬ condition → ∃ error, outcome = .error error ∧ Refuses error

/-- The error is an overflow, whatever its cause. -/
def TimeError.IsOverflow (error : TimeError) : Prop :=
  ∃ cause, error = .overflow cause

/-- The error is about the number of a year, and says so. -/
def TimeError.NamesYear (error : TimeError) (number : Int) : Prop :=
  error = .year number ∧ error.message = "year " ++ toString number ++ " is out of range"

/-- The error is one with which the unit does not lead to day `d`. -/
def CalendarUnit.Refuses (unit : CalendarUnit) (d : Int) (error : TimeError) : Prop :=
  let year := (Date.ofDay d).year
  let named := (unit = .month ∨ unit = .year) ∧ ¬ (1 ≤ year ∧ year ≤ Calendar.lastYear) ∧
    fits32 year = true
  (named → error.NamesYear year) ∧ (¬ named → error.IsOverflow)

/-! ## Steps with a condition -/

section

variable {ε α β : Type} {outcome outcome' : Except ε α} {condition condition' : Prop} {value : α}
  {result : β} {Refuses Refuses' : ε → Prop} {error : ε}

namespace SucceedsIf

theorem bind {next : α → Except ε β} (first : SucceedsIf outcome condition value Refuses)
    (second : condition → SucceedsIf (next value) condition' result Refuses) :
    SucceedsIf (outcome >>= next) (condition ∧ condition') result Refuses := by
  constructor
  · rintro ⟨holds, holds'⟩
    exact bind_eq_ok_iff.mpr ⟨value, first.success holds, (second holds).success holds'⟩
  · intro fails
    by_cases holds : condition
    · rw [first.success holds]
      exact (second holds).refusal fun holds' => fails ⟨holds, holds'⟩
    · obtain ⟨error, refused, refuses⟩ := first.refusal holds
      rw [refused]
      exact ⟨error, rfl, refuses⟩

theorem congr (succeeds : SucceedsIf outcome condition value Refuses)
    (same : condition ↔ condition') : SucceedsIf outcome condition' value Refuses :=
  ⟨fun holds => succeeds.success (same.mpr holds),
    fun fails => succeeds.refusal fun holds => fails (same.mp holds)⟩

theorem mono (succeeds : SucceedsIf outcome condition value Refuses)
    (implies : ∀ error, ¬ condition → Refuses error → Refuses' error) :
    SucceedsIf outcome condition value Refuses' := by
  refine ⟨succeeds.success, fun fails => ?_⟩
  obtain ⟨error, refused, refuses⟩ := succeeds.refusal fails
  exact ⟨error, refused, implies error fails refuses⟩

theorem eq_of_ok {value' : α} (succeeds : SucceedsIf outcome condition value Refuses)
    (returned : outcome = .ok value') : value' = value := by
  by_cases holds : condition
  · exact Except.ok.inj (returned.symm.trans (succeeds.success holds))
  · obtain ⟨_, refused, -⟩ := succeeds.refusal holds
    exact absurd (returned.symm.trans refused) nofun

theorem eq_ok_iff {value' : α} (succeeds : SucceedsIf outcome condition value Refuses) :
    outcome = .ok value' ↔ condition ∧ value' = value := by
  refine ⟨fun returned => ⟨?_, succeeds.eq_of_ok returned⟩, ?_⟩
  · by_contra fails
    obtain ⟨_, refused, -⟩ := succeeds.refusal fails
    exact absurd (returned.symm.trans refused) nofun
  · rintro ⟨holds, rfl⟩
    exact succeeds.success holds

theorem refuses_of_error (succeeds : SucceedsIf outcome condition value Refuses)
    (failed : outcome = .error error) : Refuses error := by
  obtain ⟨_, refused, refuses⟩ := succeeds.refusal fun holds =>
    absurd (failed.symm.trans (succeeds.success holds)) nofun
  obtain rfl := Except.error.inj (failed.symm.trans refused)
  exact refuses

theorem exists_error_iff (succeeds : SucceedsIf outcome condition value Refuses) :
    (∃ error, outcome = .error error) ↔ ¬ condition := by
  constructor
  · rintro ⟨error, refused⟩ holds
    exact absurd (refused.symm.trans (succeeds.success holds)) nofun
  · intro fails
    obtain ⟨error, refused, -⟩ := succeeds.refusal fails
    exact ⟨error, refused⟩

/-- With one value and one error the condition is all that matters. -/
theorem outcome_eq (succeeds : SucceedsIf outcome condition value (· = error))
    (succeeds' : SucceedsIf outcome' condition value (· = error)) : outcome = outcome' := by
  by_cases holds : condition
  · exact (succeeds.success holds).trans (succeeds'.success holds).symm
  · obtain ⟨_, refused, rfl⟩ := succeeds.refusal holds
    obtain ⟨_, refused', rfl⟩ := succeeds'.refusal holds
    exact refused.trans refused'.symm

theorem isOverflow {outcome : Except TimeError α} {cause : Overflow}
    (succeeds : SucceedsIf outcome condition value (· = .overflow cause)) :
    SucceedsIf outcome condition value TimeError.IsOverflow :=
  succeeds.mono fun _ _ refused => ⟨cause, refused⟩

end SucceedsIf

theorem succeedsIf_ok (value : α) : SucceedsIf (.ok value : Except ε α) True value Refuses :=
  ⟨fun _ => rfl, fun fails => absurd trivial fails⟩

theorem succeedsIf_ite [Decidable condition] :
    SucceedsIf (if condition then .ok value else .error error) condition value (· = error) := by
  constructor
  · exact fun holds => if_pos holds
  · exact fun fails => ⟨error, if_neg fails, rfl⟩

end

/-! ## The checks -/

theorem succeedsIf_checkDay (d : Int) :
    SucceedsIf (checkDay d) (0 ≤ d ∧ d < Calendar.dayLimit) d (· = .overflow .date) :=
  succeedsIf_ite

theorem succeedsIf_checkSpan (days : Int) :
    SucceedsIf (checkSpan days) (days.natAbs ≤ 999999999) () TimeError.IsOverflow := by
  refine ⟨checkSpan_eq_ok_iff.mpr, fun long => ?_⟩
  rw [checkSpan]
  split
  · exact ⟨_, rfl, _, rfl⟩
  · rw [if_pos (Nat.not_le.mp long)]
    exact ⟨_, rfl, _, rfl⟩

theorem succeedsIf_checkYear (year : Int) :
    SucceedsIf (checkYear year) (1 ≤ year ∧ year ≤ Calendar.lastYear) () fun error =>
      (fits32 year = true → error.NamesYear year) ∧ (¬ fits32 year = true → error.IsOverflow) := by
  refine ⟨checkYear_eq_ok_iff.mpr, fun unsupported => ?_⟩
  rw [checkYear, if_neg unsupported]
  split
  case isTrue fits => exact ⟨_, rfl, fun _ => ⟨rfl, rfl⟩, fun wide => absurd fits wide⟩
  case isFalse wide =>
    split
    · exact ⟨_, rfl, fun fits => absurd fits wide, fun _ => ⟨_, rfl⟩⟩
    · exact ⟨_, rfl, fun fits => absurd fits wide, fun _ => ⟨_, rfl⟩⟩

namespace CalendarUnit

variable {unit : CalendarUnit} {d : Int} {error : TimeError}

/-! ## Years of days -/

theorem year_ofDay (d : Int) : (Date.ofDay d).year = Calendar.yearIndex d + 1 :=
  congrArg (· + 1) (Calendar.monthIndex_div d)

/-- The supported days are those of the supported years. -/
theorem year_supported_iff : 1 ≤ (Date.ofDay d).year ∧ (Date.ofDay d).year ≤ Calendar.lastYear ↔
    0 ≤ d ∧ d < Calendar.dayLimit := by
  have begun : 0 ≤ d ↔ 0 ≤ Calendar.yearIndex d := CalendarUnit.year.start_le_iff (k := 0)
  have ended : Calendar.dayLimit ≤ d ↔ Calendar.lastYear ≤ Calendar.yearIndex d :=
    CalendarUnit.year.start_le_iff
  rw [year_ofDay]
  omega

theorem refuses_of_supported (supported : 0 ≤ d ∧ d < Calendar.dayLimit) :
    unit.Refuses d error ↔ error.IsOverflow := by
  have inYears := year_supported_iff.mpr supported
  simp only [Refuses, inYears, and_self, not_true_eq_false, false_and, and_false, false_implies,
    not_false_eq_true, true_implies, true_and]

theorem refuses_of_days (days : unit = .day ∨ unit = .week) :
    unit.Refuses d error ↔ error.IsOverflow := by
  rcases days with rfl | rfl <;> simp [Refuses]

/-! ## Moving and going on to the next period -/

/-- With the year of a day the day is checked as well. -/
theorem succeedsIf_checkYear_checkDay {year : Int} (months : unit = .month ∨ unit = .year)
    (sameYear : (Date.ofDay d).year = year) :
    SucceedsIf (do checkYear year; checkDay d) (0 ≤ d ∧ d < Calendar.dayLimit) d
      (unit.Refuses d) := by
  subst sameYear
  have supported : SucceedsIf (checkYear (Date.ofDay d).year)
      (1 ≤ (Date.ofDay d).year ∧ (Date.ofDay d).year ≤ Calendar.lastYear) () (unit.Refuses d) := by
    refine (succeedsIf_checkYear _).mono fun error unsupported refuses => ?_
    simpa only [Refuses, months, unsupported, not_false_eq_true, true_and] using refuses
  refine (supported.bind fun inYears => ?_).congr (and_iff_right_of_imp year_supported_iff.mpr)
  refine (succeedsIf_checkDay d).mono fun error unsupported _ => ?_
  exact absurd (year_supported_iff.mp inYears) unsupported

theorem succeedsIf_checkSpan_checkDay (days : unit = .day ∨ unit = .week) (n d : Int) :
    SucceedsIf (do checkSpan n; checkDay d) (n.natAbs ≤ 999999999 ∧ 0 ≤ d ∧ d < Calendar.dayLimit) d
      (unit.Refuses d) := by
  refine ((succeedsIf_checkSpan n).bind fun _ => ?_).mono
    fun error _ overflow => (refuses_of_days days).mpr overflow
  exact (succeedsIf_checkDay d).isOverflow

/-- A supported day is moved to every supported day that the unit leads to. -/
theorem succeedsIf_shift? (supported : 0 ≤ d ∧ d < Calendar.dayLimit) (unit : CalendarUnit)
    (n : Int) : SucceedsIf (unit.shift? n d)
      (0 ≤ unit.shift n d ∧ unit.shift n d < Calendar.dayLimit) (unit.shift n d)
      (unit.Refuses (unit.shift n d)) := by
  have limit := Calendar.dayLimit_eq
  cases unit with
  | day =>
    refine (succeedsIf_checkSpan_checkDay (.inl rfl) n (d + n)).congr (and_iff_right_of_imp ?_)
    omega
  | week =>
    refine (succeedsIf_checkSpan_checkDay (.inr rfl) (7 * n) (d + 7 * n)).congr
      (and_iff_right_of_imp ?_)
    omega
  | month =>
    refine succeedsIf_checkYear_checkDay (.inl rfl) ?_
    have index : Calendar.monthIndex (month.shift n d) = month.index d + n := month.index_shift n d
    rw [Date.ofDay, index]
    rfl
  | year =>
    refine succeedsIf_checkYear_checkDay (.inr rfl) ?_
    have index : Calendar.yearIndex (year.shift n d) = year.index d + n := year.index_shift n d
    rw [year_ofDay, index]
    rfl

theorem year_next_month (d : Int) :
    (Date.ofDay (month.next d)).year = (Calendar.monthIndex d + 1) / 12 + 1 := by
  have index : Calendar.monthIndex (month.next d) = Calendar.monthIndex d + 1 := month.index_next d
  rw [Date.ofDay, index]

theorem year_next_year (d : Int) :
    (Date.ofDay (year.next d)).year = Calendar.yearIndex d + 2 := by
  have index : Calendar.yearIndex (year.next d) = Calendar.yearIndex d + 1 := year.index_next d
  rw [year_ofDay, index, Int.add_assoc]
  rfl

theorem succeedsIf_next? (unit : CalendarUnit) (d : Int) : SucceedsIf (unit.next? d)
    (0 ≤ unit.next d ∧ unit.next d < Calendar.dayLimit) (unit.next d)
    (unit.Refuses (unit.next d)) := by
  have days : ∀ {unit : CalendarUnit}, unit = .day ∨ unit = .week →
      SucceedsIf (checkDay (unit.next d)) (0 ≤ unit.next d ∧ unit.next d < Calendar.dayLimit)
        (unit.next d) (unit.Refuses (unit.next d)) := by
    intro unit days
    exact (succeedsIf_checkDay _).isOverflow.mono fun error _ => (refuses_of_days days).mpr
  cases unit with
  | day => exact days (.inl rfl)
  | week => exact days (.inr rfl)
  | month => exact succeedsIf_checkYear_checkDay (.inl rfl) (year_next_month d)
  | year => exact succeedsIf_checkYear_checkDay (.inr rfl) (year_next_year d)

theorem shift?_zero (supported : 0 ≤ d ∧ d < Calendar.dayLimit) (unit : CalendarUnit) :
    unit.shift? 0 d = .ok d := by
  have succeeds := succeedsIf_shift? supported unit 0
  rw [unit.shift_zero] at succeeds
  exact succeeds.success supported

end CalendarUnit

end RelativeTime
