import RelativeTime.Text.Word

/-!
# The written form of an expression

An expression is `KEYWORD ("/" UNIT)? (SIGN DIGITS UNIT ("/" UNIT)?)?`, where keywords and units are
words and digits are the ASCII ones. A well-formed `Form` is a derivation of that grammar with
nothing dropped, so `Form.text` is the text it derives. Each part starts with a character that
cannot continue the part before it, which is why reading takes the longest word or run of digits and
never has to reconsider.
-/

namespace RelativeTime

namespace Expression

open Text (Alphabet IsRunOf IsWord isWordCharacter run?)

/-- An offset as written: its sign, its digits, its unit and the rounding after it. -/
structure OffsetForm where
  isNegative : Bool
  digits : List Char
  unit : List Char
  rounding : Option (List Char)
  deriving DecidableEq

/-- An expression as written. -/
structure Form where
  keyword : List Char
  rounding : Option (List Char)
  offset : Option OffsetForm
  deriving DecidableEq

/-! ## Well-formed parts -/

/-- A non-empty run of ASCII digits. -/
abbrev IsDigits (digits : List Char) : Prop :=
  IsRunOf Char.isDigit digits

/-- The parts of an offset are words and digits. -/
structure OffsetForm.WellFormed [Alphabet] (form : OffsetForm) : Prop where
  digits : IsDigits form.digits
  unit : IsWord form.unit
  rounding : ∀ word, form.rounding = some word → IsWord word

/-- The parts of an expression are words and digits. -/
structure Form.WellFormed [Alphabet] (form : Form) : Prop where
  keyword : IsWord form.keyword
  rounding : ∀ word, form.rounding = some word → IsWord word
  offset : ∀ offset, form.offset = some offset → offset.WellFormed

/-! ## Writing -/

def roundingText : Option (List Char) → List Char
  | none => []
  | some word => '/' :: word

def OffsetForm.sign (form : OffsetForm) : Char :=
  if form.isNegative then '-' else '+'

def OffsetForm.text (form : OffsetForm) : List Char :=
  form.sign :: (form.digits ++ (form.unit ++ roundingText form.rounding))

/-- The text of an expression. -/
def Form.text (form : Form) : List Char :=
  form.keyword ++ (roundingText form.rounding ++ (form.offset.elim [] OffsetForm.text))

/-- The form is a derivation of the text. -/
structure Form.Derives [Alphabet] (form : Form) (text : String) : Prop where
  wellFormed : form.WellFormed
  text_eq : form.text = text.toList

/-! ## Groups -/

/-- The named parts of an expression side by side, whether or not the part that they belong to is
written. -/
structure Groups where
  keyword : List Char
  rounding : Option (List Char)
  sign : Option Char
  digits : Option (List Char)
  unit : Option (List Char)
  finalRounding : Option (List Char)

def Form.groups (form : Form) : Groups where
  keyword := form.keyword
  rounding := form.rounding
  sign := form.offset.map OffsetForm.sign
  digits := form.offset.map (·.digits)
  unit := form.offset.map (·.unit)
  finalRounding := form.offset.bind (·.rounding)

/-! ## Reading -/

/-- The longest word at the front of a text, and the rest. -/
def word? [Alphabet] (cs : List Char) : Option (List Char × List Char) :=
  run? isWordCharacter cs

/-- The longest run of digits at the front of a text, and the rest. -/
def digits? (cs : List Char) : Option (List Char × List Char) :=
  run? Char.isDigit cs

def rounding? [Alphabet] (cs : List Char) : Option (Option (List Char) × List Char) :=
  match cs with
  | '/' :: rest => (word? rest).map fun (word, rest) => (some word, rest)
  | _ => some (none, cs)

/-- A sign at the front of a text, as whether it is the minus sign, and the rest. -/
def sign? (cs : List Char) : Option (Bool × List Char) :=
  match cs with
  | '+' :: rest => some (false, rest)
  | '-' :: rest => some (true, rest)
  | _ => none

/-- The offset that makes up the whole text. -/
def offset? [Alphabet] (cs : List Char) : Option OffsetForm := do
  let (isNegative, rest) ← sign? cs
  let (digits, rest) ← digits? rest
  let (unit, rest) ← word? rest
  let (rounding, rest) ← rounding? rest
  if rest = [] then some { isNegative, digits, unit, rounding } else none

/-- The expression that makes up the whole text. -/
def Form.read? [Alphabet] (cs : List Char) : Option Form := do
  let (keyword, rest) ← word? cs
  let (rounding, rest) ← rounding? rest
  if rest = [] then some { keyword, rounding, offset := none }
  else (offset? rest).map fun offset => { keyword, rounding, offset := some offset }

end Expression

end RelativeTime
