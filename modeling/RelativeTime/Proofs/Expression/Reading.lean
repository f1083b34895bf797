import RelativeTime.Expression.Datum
import RelativeTime.Parser

/-!
# Reading follows the grammar

A text is read into the form that derives it, if there is one, and there is never more than one.
Reading never looks back, so what has to be shown is where each part stops: a word stops at a slash,
a sign or the end, and a run of digits at the unit after it, because no digit is a word character.

The tokens of a text are then settled by its derivation: the outcome of reading is one of the three
in `Reading`, and which one it is depends on the grammar and the number of digits alone.
-/

namespace RelativeTime

namespace Expression

open Text

variable {cs rest word digits : List Char}

/-! ## Signs and digits -/

theorem sign_eq_plus_or_minus (form : OffsetForm) : form.sign = '+' ∨ form.sign = '-' := by
  cases isNegative : form.isNegative <;> simp [OffsetForm.sign, isNegative]

theorem sign?_sound {isNegative : Bool} (read : sign? cs = some (isNegative, rest)) :
    (if isNegative then '-' else '+') :: rest = cs := by
  rw [sign?.eq_def] at read
  split at read
  · obtain ⟨rfl, rfl⟩ := Prod.mk.inj (Option.some.inj read); rfl
  · obtain ⟨rfl, rfl⟩ := Prod.mk.inj (Option.some.inj read); rfl
  · contradiction

theorem sign?_complete (form : OffsetForm) :
    sign? (form.sign :: rest) = some (form.isNegative, rest) := by
  cases isNegative : form.isNegative <;> simp [OffsetForm.sign, isNegative, sign?]

theorem digits?_complete (isDigits : IsDigits digits) (stops : Stops Char.isDigit rest) :
    digits? (digits ++ rest) = some (digits, rest) :=
  run?_eq_some_iff.mpr ⟨isDigits, stops, rfl⟩

/-! ## Where parts stop -/

variable [Alphabet]

/-- What can stand after a complete rounding or in place of a missing one. -/
def EndsRounding (rest : List Char) : Prop :=
  Stops isWordCharacter rest ∧ Stops (· == '/') rest

theorem endsRounding_nil : EndsRounding [] := ⟨stops_nil, stops_nil⟩

theorem endsRounding_offset (offset : Option OffsetForm) :
    EndsRounding (offset.elim [] OffsetForm.text) := by
  cases offset with
  | none => exact endsRounding_nil
  | some offset =>
    rcases sign_eq_plus_or_minus offset with sign | sign <;>
      simp [EndsRounding, OffsetForm.text, sign]

theorem stops_roundingText (rounding : Option (List Char)) (ends : EndsRounding rest) :
    Stops isWordCharacter (roundingText rounding ++ rest) := by
  cases rounding with
  | none => exact ends.1
  | some word => simp [roundingText]

/-- Digits stop at a word, since no digit is a word character. -/
theorem stops_word (isWord : IsWord word) : Stops Char.isDigit (word ++ rest) := by
  obtain ⟨c, tail, rfl⟩ := List.exists_cons_of_ne_nil isWord.1
  have inWord : isWordCharacter c = true := isWord.2 c List.mem_cons_self
  rw [List.cons_append, stops_cons]
  cases isDigit : c.isDigit with
  | false => rfl
  | true => exact absurd inWord (by simp [Alphabet.digit c isDigit])

/-! ## What is read was written -/

theorem rounding?_sound {rounding : Option (List Char)}
    (read : rounding? cs = some (rounding, rest)) :
    (∀ word, rounding = some word → IsWord word) ∧ roundingText rounding ++ rest = cs := by
  rw [rounding?.eq_def] at read
  split at read
  · simp only [Option.map_eq_some_iff, Prod.mk.injEq] at read
    obtain ⟨⟨word, rest⟩, scanned, rfl, rfl⟩ := read
    obtain ⟨isWord, -, rfl⟩ := run?_eq_some_iff.mp scanned
    exact ⟨fun _ same => Option.some.inj same ▸ isWord, rfl⟩
  · obtain ⟨rfl, rfl⟩ := Prod.mk.inj (Option.some.inj read)
    exact ⟨nofun, rfl⟩

theorem offset?_sound {form : OffsetForm} (read : offset? cs = some form) :
    form.WellFormed ∧ form.text = cs := by
  simp only [offset?, Option.bind_eq_bind, Option.bind_eq_some_iff, Prod.exists] at read
  obtain ⟨isNegative, afterSign, signed, digits, afterDigits, counted, unit, afterUnit, named,
    rounding, rest, rounded, complete⟩ := read
  obtain ⟨isDigits, -, rfl⟩ := run?_eq_some_iff.mp counted
  obtain ⟨isUnit, -, rfl⟩ := run?_eq_some_iff.mp named
  obtain ⟨areWords, rfl⟩ := rounding?_sound rounded
  split at complete
  · next atEnd =>
    obtain rfl := Option.some.inj complete
    refine ⟨⟨isDigits, isUnit, areWords⟩, ?_⟩
    rw [← sign?_sound signed, atEnd, List.append_nil]
    rfl
  · contradiction

theorem read?_sound {form : Form} (read : Form.read? cs = some form) :
    form.WellFormed ∧ form.text = cs := by
  simp only [Form.read?, Option.bind_eq_bind, Option.bind_eq_some_iff, Prod.exists] at read
  obtain ⟨keyword, afterKeyword, named, rounding, rest, rounded, complete⟩ := read
  obtain ⟨isKeyword, -, rfl⟩ := run?_eq_some_iff.mp named
  obtain ⟨areWords, rfl⟩ := rounding?_sound rounded
  split at complete
  · next atEnd =>
    obtain rfl := Option.some.inj complete
    exact ⟨⟨isKeyword, areWords, nofun⟩, by simp [Form.text, atEnd]⟩
  · obtain ⟨offset, offsetRead, rfl⟩ := Option.map_eq_some_iff.mp complete
    obtain ⟨wellFormed, rfl⟩ := offset?_sound offsetRead
    exact ⟨⟨isKeyword, areWords, fun _ same => Option.some.inj same ▸ wellFormed⟩, rfl⟩

/-! ## What is written is read -/

theorem word?_complete (isWord : IsWord word) (stops : Stops isWordCharacter rest) :
    word? (word ++ rest) = some (word, rest) :=
  run?_eq_some_iff.mpr ⟨isWord, stops, rfl⟩

theorem rounding?_complete {rounding : Option (List Char)}
    (areWords : ∀ word, rounding = some word → IsWord word) (ends : EndsRounding rest) :
    rounding? (roundingText rounding ++ rest) = some (rounding, rest) := by
  cases rounding with
  | none =>
    rw [roundingText, List.nil_append, rounding?.eq_def]
    split
    · next noSlash => simp [EndsRounding] at ends
    · rfl
  | some word => simp [roundingText, rounding?, word?_complete (areWords word rfl) ends.1]

theorem offset?_complete {form : OffsetForm} (wellFormed : form.WellFormed) :
    offset? form.text = some form := by
  -- from right to left, since every part stops where the one after it starts
  have rounded : rounding? (roundingText form.rounding) = some (form.rounding, []) := by
    simpa using rounding?_complete wellFormed.rounding endsRounding_nil
  have named : word? (form.unit ++ roundingText form.rounding) =
      some (form.unit, roundingText form.rounding) :=
    word?_complete wellFormed.unit (by simpa using stops_roundingText form.rounding endsRounding_nil)
  have counted : digits? (form.digits ++ (form.unit ++ roundingText form.rounding)) =
      some (form.digits, form.unit ++ roundingText form.rounding) :=
    digits?_complete wellFormed.digits (stops_word wellFormed.unit)
  simp [offset?, OffsetForm.text, sign?_complete, counted, named, rounded]

theorem read?_complete {form : Form} (wellFormed : form.WellFormed) :
    Form.read? form.text = some form := by
  -- an offset starts with its sign, at which neither a word nor a rounding goes on
  have ends := endsRounding_offset form.offset
  have named : word? form.text =
      some (form.keyword, roundingText form.rounding ++ form.offset.elim [] OffsetForm.text) :=
    word?_complete wellFormed.keyword (stops_roundingText form.rounding ends)
  have rounded := rounding?_complete wellFormed.rounding ends
  simp only [Form.read?, named, rounded, Option.bind_eq_bind, Option.bind_some]
  obtain ⟨keyword, rounding, offset⟩ := form
  cases offset with
  | none => rfl
  | some offset =>
    rw [Option.elim_some, if_neg (by simp [OffsetForm.text]),
      offset?_complete (wellFormed.offset offset rfl)]
    rfl

/-! ## Derivations -/

/-- Reading finds the derivation of a text. -/
theorem read?_eq_some_iff {text : String} {form : Form} :
    Form.read? text.toList = some form ↔ form.Derives text := by
  constructor
  · intro read
    obtain ⟨wellFormed, written⟩ := read?_sound read
    exact ⟨wellFormed, written⟩
  · rintro ⟨wellFormed, written⟩
    rw [← written]
    exact read?_complete wellFormed

theorem read?_eq_none_iff {text : String} :
    Form.read? text.toList = none ↔ ∀ form : Form, ¬ form.Derives text := by
  simp only [← read?_eq_some_iff, Option.eq_none_iff_forall_ne_some, ne_eq]

theorem Form.Derives.unique {text : String} {first second : Form} (left : first.Derives text)
    (right : second.Derives text) : first = second := by
  rw [← read?_eq_some_iff] at left right
  exact Option.some.inj (left.symm.trans right)

theorem derives_or_underivable (text : String) :
    (∃ form : Form, form.Derives text) ∨ ∀ form : Form, ¬ form.Derives text := by
  cases found : Form.read? text.toList with
  | none => exact .inr (read?_eq_none_iff.mp found)
  | some form => exact .inl ⟨form, read?_eq_some_iff.mp found⟩

/-! ## Tokens of a text -/

section

variable {text : String} {form : Form}

theorem read_of_underivable (underivable : ∀ form : Form, ¬ form.Derives text) :
    Tokens.read text = .error (.malformed text) := by
  simp [Tokens.read, read?_eq_none_iff.mpr underivable]

theorem read_of_convertible (derives : form.Derives text)
    (convertible : form.digitCount ≤ digitLimit) : Tokens.read text = .ok form.tokens := by
  simp [Tokens.read, read?_eq_some_iff.mpr derives, convertible]

theorem read_of_excessive (derives : form.Derives text)
    (excessive : digitLimit < form.digitCount) :
    Tokens.read text = .error (.tooManyDigits form.digitCount) := by
  simp [Tokens.read, read?_eq_some_iff.mpr derives, excessive]

theorem read_eq_ok_iff {tokens : Tokens} :
    Tokens.read text = .ok tokens ↔
      ∃ form : Form, form.Derives text ∧ form.digitCount ≤ digitLimit ∧ form.tokens = tokens := by
  constructor
  · intro read
    rcases derives_or_underivable text with ⟨form, derives⟩ | underivable
    · by_cases convertible : form.digitCount ≤ digitLimit
      · rw [read_of_convertible derives convertible] at read
        exact ⟨form, derives, convertible, Except.ok.inj read⟩
      · rw [read_of_excessive derives (by omega)] at read
        contradiction
    · rw [read_of_underivable underivable] at read
      contradiction
  · rintro ⟨form, derives, convertible, rfl⟩
    exact read_of_convertible derives convertible

end

/-! ## Outcomes of reading -/

variable {ε : Type}

/-- What reading a text comes to, by the grammar alone. -/
inductive Reading (text : String) : Except (Failure ε) Tokens → Prop where
  /-- Without a derivation the error is about the structure of the whole text and no slot of it. -/
  | malformed (error : ParseError) (underivable : ∀ form : Form, ¬ form.Derives text)
      (kind : error.kind = .invalidStructure) (value : error.value = text)
      (slot : error.slot = none) : Reading text (.error (.parse error))
  /-- With a derivation the tokens are its parts. -/
  | tokens (form : Form) (derives : form.Derives text) (convertible : form.digitCount ≤ digitLimit) :
      Reading text (.ok form.tokens)
  /-- An amount with too many digits is not converted. -/
  | tooManyDigits (form : Form) (derives : form.Derives text)
      (excessive : digitLimit < form.digitCount) :
      Reading text (.error (.tooManyDigits form.digitCount))

theorem reading_read (text : String) :
    Reading text ((Tokens.read text).mapError Failure.ofRead : Except (Failure ε) Tokens) := by
  rcases derives_or_underivable text with ⟨form, derives⟩ | underivable
  · by_cases convertible : form.digitCount ≤ digitLimit
    · rw [read_of_convertible derives convertible]
      exact .tokens form derives convertible
    · rw [read_of_excessive derives (by omega)]
      exact .tooManyDigits form derives (by omega)
  · rw [read_of_underivable underivable]
    exact .malformed (.malformed text) underivable rfl rfl rfl

/-- The grammar and the number of digits leave a text only one outcome. -/
theorem Reading.unique {text : String} {first second : Except (Failure ε) Tokens}
    (left : Reading text first) (right : Reading text second) : first = second := by
  -- two derivations of a text are the same, so they have the same number of digits
  cases left with
  | malformed error underivable kind value slot =>
    cases right with
    | malformed error' _ kind' value' slot' =>
      have same : error = error' := by
        cases error; cases error'; simp_all
      rw [same]
    | tokens form derives _ => exact absurd derives (underivable form)
    | tooManyDigits form derives _ => exact absurd derives (underivable form)
  | tokens form derives convertible =>
    cases right with
    | malformed _ underivable => exact absurd derives (underivable form)
    | tokens form' derives' _ => rw [derives.unique derives']
    | tooManyDigits form' derives' excessive =>
      obtain rfl := derives.unique derives'
      omega
  | tooManyDigits form derives excessive =>
    cases right with
    | malformed _ underivable => exact absurd derives (underivable form)
    | tokens form' derives' convertible =>
      obtain rfl := derives.unique derives'
      omega
    | tooManyDigits form' derives' _ => rw [derives.unique derives']

/-- Every text has exactly one outcome, the one that the grammar gives it; a text has at most one
derivation; and the parts of a derivation always pass the check of tokens. -/
theorem read_decided_by_grammar [Text.Numerals] (text : String) :
    (∀ outcome : Except (Failure ε) Tokens,
      (Tokens.read text).mapError Failure.ofRead = outcome ↔ Reading text outcome) ∧
    (∀ first second : Form, first.Derives text → second.Derives text → first = second) ∧
    (∀ form : Form, Tokens.ofDatum form.groups.datum = .ok form.tokens) := by
  refine ⟨fun outcome => ⟨?_, fun reading => (reading_read text).unique reading⟩, ?_, ?_⟩
  · rintro rfl
    exact reading_read text
  · intro first second left right
    exact left.unique right
  · intro form
    rw [form.datum_groups, form.tokens.ofDatum_datum]

end Expression

end RelativeTime
