/-!
# Decimal numbers

Runs of ASCII digits as numbers, and numbers on a fixed number of digits.
-/

namespace RelativeTime.Text

def decimalValue (digits : List Char) : Nat :=
  Nat.ofDigitChars 10 digits 0

/-- The number that a text denotes, which must be a non-empty run of digits. -/
def decimal? (cs : List Char) : Option Nat :=
  if !cs.isEmpty && cs.all Char.isDigit then some (decimalValue cs) else none

/-- The last `width` decimal digits of `n`. -/
def padded : Nat → Nat → List Char
  | 0, _ => []
  | width + 1, n => padded width (n / 10) ++ [Nat.digitChar (n % 10)]

/-- A number on a fixed number of digits has that many digits. -/
@[simp] theorem length_padded (width n : Nat) : (padded width n).length = width := by
  induction width generalizing n with
  | zero => rfl
  | succ width ih => simp [padded, ih]

/-! ## Significant digits -/

/-- The digits without leading zeros, except that zero has one digit. -/
def significant (digits : List Char) : List Char :=
  match digits.dropWhile (· == '0') with
  | [] => ['0']
  | c :: digits => c :: digits

theorem digitChar_sub_of_isDigit {c : Char} (isDigit : c.isDigit = true) :
    c.toNat - '0'.toNat < 10 ∧ Nat.digitChar (c.toNat - '0'.toNat) = c := by
  obtain ⟨low, high⟩ : 48 ≤ c.toNat ∧ c.toNat ≤ 57 := Char.isDigit_iff_toNat.mp isDigit
  have bound : c.toNat - 48 < 10 := by omega
  refine ⟨bound, Char.toNat_inj.mp ?_⟩
  change (Nat.digitChar (c.toNat - 48)).toNat = c.toNat
  rw [Nat.toNat_digitChar_of_lt_ten bound]
  omega

/-- Further digits after a positive number are its last digits. -/
theorem toDigits_ofDigitChars {digits : List Char} (areDigits : ∀ c ∈ digits, c.isDigit = true)
    {value : Nat} (positive : 0 < value) :
    Nat.toDigits 10 (Nat.ofDigitChars 10 digits value) = Nat.toDigits 10 value ++ digits := by
  induction digits generalizing value with
  | nil => simp
  | cons c digits inductionHypothesis =>
    obtain ⟨isDigit, restDigits⟩ := List.forall_mem_cons.mp areDigits
    obtain ⟨bound, rebuilt⟩ := digitChar_sub_of_isDigit isDigit
    calc Nat.toDigits 10 (Nat.ofDigitChars 10 (c :: digits) value)
        = Nat.toDigits 10 (10 * value + (c.toNat - '0'.toNat)) ++ digits := by
          rw [Nat.ofDigitChars_cons, inductionHypothesis restDigits (by omega)]
      _ = Nat.toDigits 10 value ++ [c] ++ digits := by
          rw [← Nat.toDigits_append_toDigits (by decide) positive bound,
            Nat.toDigits_of_lt_base bound, rebuilt]
      _ = Nat.toDigits 10 value ++ c :: digits := by simp

/-- The digits of the number that a run of digits denotes are the significant ones of the run. -/
theorem toDigits_decimalValue {digits : List Char} (areDigits : ∀ c ∈ digits, c.isDigit = true) :
    Nat.toDigits 10 (decimalValue digits) = significant digits := by
  induction digits with
  | nil => rfl
  | cons c digits inductionHypothesis =>
    obtain ⟨isDigit, restDigits⟩ := List.forall_mem_cons.mp areDigits
    by_cases zero : c = '0'
    · subst zero
      simpa [decimalValue, significant, Nat.ofDigitChars_cons] using inductionHypothesis restDigits
    · obtain ⟨bound, rebuilt⟩ := digitChar_sub_of_isDigit isDigit
      have positive : 0 < c.toNat - '0'.toNat := by
        rw [Nat.pos_iff_ne_zero]
        intro vanishes
        exact zero (by rw [← rebuilt, vanishes]; rfl)
      have kept : significant (c :: digits) = c :: digits := by simp [significant, zero]
      rw [kept, decimalValue, Nat.ofDigitChars_cons, Nat.mul_zero, Nat.zero_add,
        toDigits_ofDigitChars restDigits positive, Nat.toDigits_of_lt_base bound, rebuilt]
      rfl

theorem decimalValue_toDigits (value : Nat) : decimalValue (Nat.toDigits 10 value) = value :=
  Nat.ofDigitChars_ten_toDigits

theorem length_significant_le {digits : List Char} (nonempty : digits ≠ []) :
    (significant digits).length ≤ digits.length := by
  have shorter := (List.dropWhile_sublist (· == '0') (l := digits)).length_le
  have positive := List.length_pos_iff.mpr nonempty
  rw [significant]
  split
  · exact positive
  · next same => rwa [same] at shorter

end RelativeTime.Text
