import RelativeTime.Expression.Form
import RelativeTime.Text.Decimal

/-!
# Tokens

The tokens of an expression are its names and the signed amount of its offset, not yet checked
against any table of units. They are read from the written form, and the canonical text writes them
back with the shortest amount and a plus sign for zero.
-/

namespace RelativeTime

namespace Expression

/-- A signed amount, the name of its unit and the name of the rounding that follows. -/
structure OffsetTokens where
  amount : Int
  unit : String
  rounding : Option String
  deriving DecidableEq

/-- The names and the amount of an expression. -/
structure Tokens where
  keyword : String
  rounding : Option String
  offset : Option OffsetTokens
  deriving DecidableEq

def Tokens.finalRounding (tokens : Tokens) : Option String :=
  tokens.offset.bind (·.rounding)

/-- Why a text has no tokens. -/
inductive ReadError where
  /-- The text is no expression. -/
  | malformed (text : String)
  /-- The amount is written with more digits than are converted. -/
  | tooManyDigits (count : Nat)
  deriving DecidableEq

/-- The most digits that an amount may be written with, leading zeros included. -/
def digitLimit : Nat := 4300

/-! ## From the written form -/

/-- The signed amount of an offset. -/
def OffsetForm.amount (form : OffsetForm) : Int :=
  if form.isNegative then -(Text.decimalValue form.digits : Int) else Text.decimalValue form.digits

def OffsetForm.tokens (form : OffsetForm) : OffsetTokens where
  amount := form.amount
  unit := String.ofList form.unit
  rounding := form.rounding.map String.ofList

def Form.tokens (form : Form) : Tokens where
  keyword := String.ofList form.keyword
  rounding := form.rounding.map String.ofList
  offset := form.offset.map OffsetForm.tokens

/-- The number of digits of the amount, 0 without an offset. -/
def Form.digitCount (form : Form) : Nat :=
  (form.offset.map fun offset => offset.digits.length).getD 0

/-- The tokens of a text. -/
def Tokens.read [Text.Alphabet] (text : String) : Except ReadError Tokens :=
  match Form.read? text.toList with
  | none => .error (.malformed text)
  | some form =>
    if form.digitCount ≤ digitLimit then .ok form.tokens
    else .error (.tooManyDigits form.digitCount)

/-! ## Canonical text -/

def OffsetTokens.form (offset : OffsetTokens) : OffsetForm where
  isNegative := offset.amount < 0
  digits := Nat.toDigits 10 offset.amount.natAbs
  unit := offset.unit.toList
  rounding := offset.rounding.map String.toList

def Tokens.form (tokens : Tokens) : Form where
  keyword := tokens.keyword.toList
  rounding := tokens.rounding.map String.toList
  offset := tokens.offset.map OffsetTokens.form

/-- The canonical text of the tokens. -/
def Tokens.text (tokens : Tokens) : String :=
  String.ofList tokens.form.text

/-- The names are words and the amount has no more digits than are converted. -/
structure Tokens.Readable [Text.Alphabet] (tokens : Tokens) : Prop where
  keyword : Text.IsWord tokens.keyword.toList
  rounding : ∀ name, tokens.rounding = some name → Text.IsWord name.toList
  unit : ∀ offset, tokens.offset = some offset → Text.IsWord offset.unit.toList
  finalRounding : ∀ name, tokens.finalRounding = some name → Text.IsWord name.toList
  amount : ∀ offset, tokens.offset = some offset →
    (Nat.toDigits 10 offset.amount.natAbs).length ≤ digitLimit

/-! ## Normal texts -/

def isSign (c : Char) : Bool :=
  c == '+' || c == '-'

/-- A text with the leading zeros of its amount left out and a plus sign before a zero amount. The
amount is the digits after the first sign. -/
def normalText (text : String) : String :=
  let start := text.toList.takeWhile (!isSign ·)
  match text.toList.dropWhile (!isSign ·) with
  | [] => text
  | sign :: rest =>
    let digits := Text.significant (rest.takeWhile Char.isDigit)
    let sign := if digits = ['0'] then '+' else sign
    String.ofList (start ++ (sign :: (digits ++ rest.dropWhile Char.isDigit)))

end Expression

end RelativeTime
