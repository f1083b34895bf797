import RelativeTime.Proofs.Expression.Reading

/-!
# Writing and reading are inverse

The canonical text of tokens is read back into them. A text that can be read differs from the
canonical text of its tokens only in the leading zeros of the amount and in the sign of a zero
amount, so `normalText` tells exactly the texts apart that have different tokens.

The written forms carry the argument: the form of the tokens of a form is that form with its
significant digits, which are the digits of the number that all of its digits denote.
-/

namespace RelativeTime

namespace Expression

open Text

/-! ## Tokens of forms and forms of tokens -/

theorem amount_form (offset : OffsetTokens) : offset.form.amount = offset.amount := by
  simp only [OffsetForm.amount, OffsetTokens.form, decimalValue_toDigits, decide_eq_true_eq]
  split <;> omega

theorem tokens_offsetForm (offset : OffsetTokens) : offset.form.tokens = offset := by
  rw [OffsetForm.tokens, amount_form]
  simp [OffsetTokens.form, Function.comp_def]

/-- Tokens are those of their canonical form. -/
theorem tokens_form (tokens : Tokens) : tokens.form.tokens = tokens := by
  simp [Form.tokens, Tokens.form, Function.comp_def, tokens_offsetForm]

/-- The offset with its significant digits, and with a plus sign if it is zero. -/
def OffsetForm.normal (form : OffsetForm) : OffsetForm :=
  { form with
    isNegative := form.isNegative && significant form.digits ≠ ['0']
    digits := significant form.digits }

/-- The form with the significant digits of its offset. -/
def Form.normal (form : Form) : Form :=
  { form with offset := form.offset.map OffsetForm.normal }

theorem significant_eq_zero_iff {digits : List Char} (isDigits : IsDigits digits) :
    significant digits = ['0'] ↔ decimalValue digits = 0 := by
  rw [← toDigits_decimalValue isDigits.2]
  constructor
  · intro zero
    rw [← decimalValue_toDigits (decimalValue digits), zero]
    rfl
  · intro zero
    rw [zero]
    rfl

theorem natAbs_amount (form : OffsetForm) : form.amount.natAbs = decimalValue form.digits := by
  rw [OffsetForm.amount]
  split <;> omega

theorem form_offsetTokens {form : OffsetForm} (isDigits : IsDigits form.digits) :
    form.tokens.form = form.normal := by
  -- minus is kept with the amount only in front of a number that is not zero
  have negative : form.amount < 0 ↔ form.isNegative = true ∧ significant form.digits ≠ ['0'] := by
    rw [OffsetForm.amount, ne_eq, significant_eq_zero_iff isDigits]
    split <;> simp_all
    omega
  simp only [OffsetTokens.form, OffsetForm.tokens, OffsetForm.normal, natAbs_amount,
    toDigits_decimalValue isDigits.2, negative]
  simp [Function.comp_def]

/-- Normalising is what the way over the tokens does to a form. -/
theorem form_tokens [Alphabet] {form : Form} (wellFormed : form.WellFormed) :
    form.tokens.form = form.normal := by
  obtain ⟨keyword, rounding, offset⟩ := form
  cases offset with
  | none => simp [Form.tokens, Tokens.form, Form.normal, Function.comp_def]
  | some offset =>
    have digits := (wellFormed.offset offset rfl).digits
    simp [Form.tokens, Tokens.form, Form.normal, Function.comp_def, form_offsetTokens digits]

/-! ## Normal texts -/

/-- The first sign of an expression is that of its offset. -/
theorem stops_offset (offset : Option OffsetForm) :
    Stops (!isSign ·) (offset.elim [] OffsetForm.text) := by
  cases offset with
  | none => exact stops_nil
  | some offset =>
    rcases sign_eq_plus_or_minus offset with sign | sign <;> simp [OffsetForm.text, sign, isSign]

theorem sign_normal (form : OffsetForm) :
    form.normal.sign = if significant form.digits = ['0'] then '+' else form.sign := by
  cases isNegative : form.isNegative <;>
    by_cases zero : significant form.digits = ['0'] <;>
    simp [OffsetForm.normal, OffsetForm.sign, isNegative, zero]

section

variable [Alphabet]

theorem not_isSign_of_isWord {word : List Char} (isWord : IsWord word) :
    ∀ c ∈ word, (!isSign c) = true := by
  intro c member
  have inWord := isWord.2 c member
  simp only [isSign, Bool.not_eq_true', Bool.or_eq_false_iff, beq_eq_false_iff_ne]
  constructor <;> rintro rfl <;> simp at inWord

theorem not_isSign_of_roundingText {rounding : Option (List Char)}
    (areWords : ∀ word, rounding = some word → IsWord word) :
    ∀ c ∈ roundingText rounding, (!isSign c) = true := by
  cases rounding with
  | none => simp [roundingText]
  | some word => simpa [roundingText, isSign] using not_isSign_of_isWord (areWords word rfl)

theorem normalText_eq {text : String} {form : Form} (derives : form.Derives text) :
    normalText text = String.ofList form.normal.text := by
  obtain ⟨wellFormed, written⟩ := derives
  have parts : text.toList =
      (form.keyword ++ roundingText form.rounding) ++ form.offset.elim [] OffsetForm.text := by
    rw [← written, Form.text, List.append_assoc]
  -- nothing in front of the offset is a sign, so its own sign is the first
  have unsigned : ∀ c ∈ form.keyword ++ roundingText form.rounding, (!isSign c) = true :=
    List.forall_mem_append.mpr
      ⟨not_isSign_of_isWord wellFormed.keyword, not_isSign_of_roundingText wellFormed.rounding⟩
  have stops := stops_offset form.offset
  rw [normalText, parts, takeWhile_append_of_stops unsigned stops,
    dropWhile_append_of_stops unsigned stops]
  obtain ⟨keyword, rounding, offset⟩ := form
  cases offset with
  | none =>
    change text = String.ofList (Form.text _)
    rw [Form.normal, Option.map_none, written, String.ofList_toList]
  | some offset =>
    have offsetFormed := wellFormed.offset offset rfl
    have unitStops : Stops Char.isDigit (offset.unit ++ roundingText offset.rounding) :=
      stops_word offsetFormed.unit
    simp only [Option.elim_some, OffsetForm.text, Form.normal, Form.text, Option.map_some,
      takeWhile_append_of_stops offsetFormed.digits.2 unitStops,
      dropWhile_append_of_stops offsetFormed.digits.2 unitStops, sign_normal, List.append_assoc]
    rfl

/-! ## Round trips -/

theorem wellFormed_form {tokens : Tokens} (readable : tokens.Readable) :
    tokens.form.WellFormed := by
  refine ⟨readable.keyword, ?_, ?_⟩
  · intro word same
    obtain ⟨name, present, rfl⟩ := Option.map_eq_some_iff.mp same
    exact readable.rounding name present
  · intro offsetForm same
    obtain ⟨offset, present, rfl⟩ := Option.map_eq_some_iff.mp same
    refine ⟨⟨Nat.toDigits_ne_nil, fun c => Nat.isDigit_of_mem_toDigits (by decide) (by decide)⟩,
      readable.unit offset present, ?_⟩
    intro word same
    obtain ⟨name, named, rfl⟩ := Option.map_eq_some_iff.mp same
    exact readable.finalRounding name (by rw [Tokens.finalRounding, present]; exact named)

theorem digitCount_form_le {tokens : Tokens} (readable : tokens.Readable) :
    tokens.form.digitCount ≤ digitLimit := by
  obtain ⟨keyword, rounding, offset⟩ := tokens
  cases offset with
  | none => exact Nat.zero_le _
  | some offset => exact readable.amount offset rfl

/-- The canonical text of tokens is read back. -/
theorem read_text {tokens : Tokens} (readable : tokens.Readable) :
    Tokens.read tokens.text = .ok tokens := by
  refine read_eq_ok_iff.mpr ⟨tokens.form, ⟨wellFormed_form readable, ?_⟩,
    digitCount_form_le readable, tokens_form tokens⟩
  rw [Tokens.text, String.toList_ofList]

/-- The canonical text of what was read is the normal text. -/
theorem text_of_read {text : String} {tokens : Tokens} (read : Tokens.read text = .ok tokens) :
    tokens.text = normalText text := by
  obtain ⟨form, derives, -, rfl⟩ := read_eq_ok_iff.mp read
  rw [normalText_eq derives, Tokens.text, form_tokens derives.wellFormed]

/-- What was read can be written and read again. -/
theorem readable_of_read {text : String} {tokens : Tokens} (read : Tokens.read text = .ok tokens) :
    tokens.Readable := by
  obtain ⟨form, ⟨wellFormed, -⟩, convertible, rfl⟩ := read_eq_ok_iff.mp read
  have nameIsWord {word : List Char} (isWord : IsWord word) : IsWord (String.ofList word).toList := by
    rwa [String.toList_ofList]
  constructor
  case keyword => exact nameIsWord wellFormed.keyword
  case rounding =>
    intro name same
    obtain ⟨word, present, rfl⟩ := Option.map_eq_some_iff.mp same
    exact nameIsWord (wellFormed.rounding word present)
  case unit =>
    intro offset same
    obtain ⟨offset, present, rfl⟩ := Option.map_eq_some_iff.mp same
    exact nameIsWord (wellFormed.offset offset present).unit
  case finalRounding =>
    intro name same
    obtain ⟨tokens, there, named⟩ := Option.bind_eq_some_iff.mp same
    obtain ⟨offset, present, rfl⟩ := Option.map_eq_some_iff.mp there
    obtain ⟨word, rounded, rfl⟩ := Option.map_eq_some_iff.mp named
    exact nameIsWord ((wellFormed.offset offset present).rounding word rounded)
  case amount =>
    intro offset same
    obtain ⟨offset, present, rfl⟩ := Option.map_eq_some_iff.mp same
    have isDigits := (wellFormed.offset offset present).digits
    have counted : offset.digits.length ≤ digitLimit := by
      simpa [Form.digitCount, present] using convertible
    calc (Nat.toDigits 10 offset.amount.natAbs).length
        = (significant offset.digits).length := by
          rw [natAbs_amount, toDigits_decimalValue isDigits.2]
      _ ≤ offset.digits.length := length_significant_le isDigits.1
      _ ≤ digitLimit := counted

/-- Writing and reading are inverse up to normal texts: the canonical text of tokens is read back
into them, the canonical text of what was read is the normal text, and two texts have the same
tokens if and only if they have the same normal text. -/
theorem text_inverse_read :
    (∀ tokens : Tokens, tokens.Readable → Tokens.read tokens.text = .ok tokens) ∧
    (∀ (text : String) (tokens : Tokens), Tokens.read text = .ok tokens →
      tokens.Readable ∧ tokens.text = normalText text) ∧
    (∀ (first second : String) (left right : Tokens),
      Tokens.read first = .ok left → Tokens.read second = .ok right →
        (left = right ↔ normalText first = normalText second)) := by
  refine ⟨fun tokens readable => read_text readable,
    fun text tokens read => ⟨readable_of_read read, text_of_read read⟩, ?_⟩
  intro first second left right readLeft readRight
  rw [← text_of_read readLeft, ← text_of_read readRight]
  constructor
  · rintro rfl
    rfl
  · intro same
    -- one canonical text for both, and it is read back into either
    have back := read_text (readable_of_read readLeft)
    rw [same, read_text (readable_of_read readRight)] at back
    exact (Except.ok.inj back).symm

end

example : normalText "now/w-007d/d" = "now/w-7d/d" := by rfl

example : normalText "now-00d" = "now+0d" := by rfl

end Expression

end RelativeTime
