import RelativeTime.Calendar

/-!
# Errors of time arithmetic

Time values end with the years 1 and 9999. A year beyond them is reported by its number where that
is known and small enough; everything else overflows. Spans of time and years are also limited by
the width of their counts, which shows only in the text of the error.
-/

namespace RelativeTime

/-- How an operation left the range of its values. -/
inductive Overflow where
  /-- The result is before the year 1 or after the year 9999. -/
  | date
  /-- The span has more days than a span can have. -/
  | span (days : Int)
  /-- The days of the span do not fit 32 bits. -/
  | spanWidth
  /-- The year does not fit 32 bits upwards. -/
  | yearAbove
  /-- The year does not fit 32 bits downwards. -/
  | yearBelow
  /-- The year does not fit 64 bits. -/
  | yearWidth
  deriving DecidableEq

/-- Why time arithmetic has no result. -/
inductive TimeError where
  | year (number : Int)
  | overflow (cause : Overflow)
  deriving DecidableEq

def Overflow.message : Overflow → String
  | .date => "date value out of range"
  | .span days => "days=" ++ toString days ++ "; must have magnitude <= 999999999"
  | .spanWidth => "Python int too large to convert to C int"
  | .yearAbove => "signed integer is greater than maximum"
  | .yearBelow => "signed integer is less than minimum"
  | .yearWidth => "Python int too large to convert to C long"

def TimeError.message : TimeError → String
  | .year number => "year " ++ toString number ++ " is out of range"
  | .overflow cause => cause.message

/-! ## Limits -/

def fits32 (n : Int) : Bool := -2147483648 ≤ n && n ≤ 2147483647

def fits64 (n : Int) : Bool := -9223372036854775808 ≤ n && n ≤ 9223372036854775807

def checkYear (year : Int) : Except TimeError Unit :=
  if 1 ≤ year ∧ year ≤ Calendar.lastYear then .ok ()
  else if fits32 year then .error (.year year)
  else if fits64 year then .error (.overflow (if year < 0 then .yearBelow else .yearAbove))
  else .error (.overflow .yearWidth)

def checkSpan (days : Int) : Except TimeError Unit :=
  if !fits32 days then .error (.overflow .spanWidth)
  else if days.natAbs > 999999999 then .error (.overflow (.span days))
  else .ok ()

def checkDay (d : Int) : Except TimeError Int :=
  if 0 ≤ d ∧ d < Calendar.dayLimit then .ok d else .error (.overflow .date)

/-! ## Several checks in a row -/

/-- Two steps have a result if the first has one and the second has one for it. -/
theorem bind_eq_ok_iff {ε α β : Type} {outcome : Except ε α} {next : α → Except ε β} {b : β} :
    outcome >>= next = .ok b ↔ ∃ a, outcome = .ok a ∧ next a = .ok b := by
  cases outcome with
  | ok a => exact ⟨fun result => ⟨a, rfl, result⟩, by rintro ⟨_, ⟨⟩, result⟩; exact result⟩
  | error error => exact ⟨nofun, by rintro ⟨_, ⟨⟩, _⟩⟩

theorem eq_of_mapError_eq_ok {ε ε' α : Type} {f : ε → ε'} {outcome : Except ε α} {a : α}
    (mapped : outcome.mapError f = .ok a) : outcome = .ok a := by
  cases outcome with
  | ok _ => exact congrArg Except.ok (Except.ok.inj mapped)
  | error _ => contradiction

theorem exists_of_map_eq_ok {ε α β : Type} {f : α → β} {outcome : Except ε α} {b : β}
    (mapped : outcome.map f = .ok b) : ∃ a, outcome = .ok a ∧ f a = b := by
  cases outcome with
  | ok a => exact ⟨a, rfl, Except.ok.inj mapped⟩
  | error _ => contradiction

theorem eq_of_map_eq_error {ε α β : Type} {f : α → β} {outcome : Except ε α} {error : ε}
    (mapped : outcome.map f = .error error) : outcome = .error error := by
  cases outcome with
  | ok _ => contradiction
  | error _ => exact congrArg Except.error (Except.error.inj mapped)

theorem checkYear_eq_ok_iff {year : Int} :
    checkYear year = .ok () ↔ 1 ≤ year ∧ year ≤ Calendar.lastYear := by
  rw [checkYear]
  split
  case isTrue supported => simp only [supported, and_self]
  case isFalse unsupported =>
    rw [iff_false_right unsupported]
    split
    · exact nofun
    · split <;> exact nofun

/-- A span that has few enough days for one fits 32 bits. -/
theorem checkSpan_eq_ok_iff {days : Int} : checkSpan days = .ok () ↔ days.natAbs ≤ 999999999 := by
  unfold checkSpan fits32
  split
  case isTrue wide =>
    simp only [Bool.not_eq_true', Bool.and_eq_false_iff, decide_eq_false_iff_not] at wide
    simp only [reduceCtorEq, false_iff]
    omega
  case isFalse fits =>
    split
    · simp only [reduceCtorEq, false_iff]
      omega
    · simp only [true_iff]
      omega

theorem checkDay_eq_ok_iff {d d' : Int} :
    checkDay d = .ok d' ↔ (0 ≤ d ∧ d < Calendar.dayLimit) ∧ d' = d := by
  rw [checkDay]
  split
  case isTrue supported => simp only [Except.ok.injEq, supported, true_and, eq_comm]
  case isFalse unsupported => simp only [unsupported, reduceCtorEq, false_and]

end RelativeTime
