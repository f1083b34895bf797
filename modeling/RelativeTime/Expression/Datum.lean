import RelativeTime.Expression.Tokens
import RelativeTime.Text.Numeral

/-!
# Tokens as data

Tokens can also come as data of the kind that structured texts hold. Data are checked field by
field: every field that is missing, of the wrong kind or unknown is reported with the path that
leads to it, the known fields in their order before the unknown ones in the order of the data. The
one rule between fields, that a final rounding needs an offset, is looked at only when no field has
anything wrong. Where an integer is wanted, truth values and numerals are converted to one; where a
text is wanted, nothing but a text will do.
-/

namespace RelativeTime

namespace Expression

/-- Structured data. -/
inductive Datum where
  | null
  | bool (value : Bool)
  | int (value : Int)
  | text (value : String)
  | list (values : List Datum)
  | object (fields : List (String × Datum))

abbrev Fields := List (String × Datum)

/-- What is wrong with one field. -/
inductive FieldProblem where
  | missing
  | notText
  | notInteger
  /-- The text stands for no integer. -/
  | numeral (problem : Text.NumeralProblem)
  /-- An object of the named kind was expected. -/
  | notObject (kind : String)
  | unknownField
  | roundingWithoutOffset
  deriving DecidableEq

/-- A problem with the path of fields that leads to it. -/
structure FieldError where
  path : List String
  problem : FieldProblem
  deriving DecidableEq

namespace FieldProblem

def code : FieldProblem → String
  | .missing => "missing"
  | .notText => "string_type"
  | .notInteger => "int_type"
  | .numeral .malformed => "int_parsing"
  | .numeral .tooLong => "int_parsing_size"
  | .notObject _ => "model_type"
  | .unknownField => "extra_forbidden"
  | .roundingWithoutOffset => "value_error"

def message : FieldProblem → String
  | .missing => "Field required"
  | .notText => "Input should be a valid string"
  | .notInteger => "Input should be a valid integer"
  | .numeral .malformed =>
    "Input should be a valid integer, unable to parse string as an integer"
  | .numeral .tooLong => "Unable to parse input string as an integer, exceeded maximum size"
  | .notObject kind => "Input should be a valid dictionary or instance of " ++ kind
  | .unknownField => "Extra inputs are not permitted"
  | .roundingWithoutOffset => "Value error, final_rounding requires an offset"

end FieldProblem

/-! ## Checking one field -/

/-- The outcome of checking a part of the data: its value, or what is wrong with it. -/
abbrev Checked (α : Type) := Except (List FieldError) α

def Checked.fail {α : Type} (path : List String) (problem : FieldProblem) : Checked α :=
  .error [⟨path, problem⟩]

/-- Two checks side by side, with the problems of both. -/
def Checked.both {α β : Type} : Checked α → Checked β → Checked (α × β)
  | .ok a, .ok b => .ok (a, b)
  | .ok _, .error errors => .error errors
  | .error errors, .ok _ => .error errors
  | .error errors, .error more => .error (errors ++ more)

def checkText (path : List String) : Datum → Checked String
  | .text value => .ok value
  | _ => .fail path .notText

def checkInteger [Text.Numerals] (path : List String) : Datum → Checked Int
  | .int value => .ok value
  | .bool value => .ok value.toInt
  | .text value =>
    match Text.readNumeral value with
    | .ok value => .ok value
    | .error problem => .fail path (.numeral problem)
  | _ => .fail path .notInteger

def required {α : Type} (path : List String) (name : String)
    (check : List String → Datum → Checked α) (fields : Fields) : Checked α :=
  match fields.lookup name with
  | some datum => check (path ++ [name]) datum
  | none => .fail (path ++ [name]) .missing

/-- A field that may be missing or null. -/
def optional {α : Type} (path : List String) (name : String)
    (check : List String → Datum → Checked α) (fields : Fields) : Checked (Option α) :=
  match fields.lookup name with
  | none | some .null => .ok none
  | some datum => (check (path ++ [name]) datum).map some

def refuseOthers (path : List String) (known : List String) (fields : Fields) : Checked Unit :=
  match fields.filter (fun field => !known.contains field.1) with
  | [] => .ok ()
  | others => .error (others.map fun field => ⟨path ++ [field.1], .unknownField⟩)

/-! ## Checking tokens -/

/-- An offset: an amount and a unit, without the rounding, which is a field of the expression. -/
def checkOffset [Text.Numerals] (path : List String) : Datum → Checked (Int × String)
  | .object fields =>
    (Checked.both
      (Checked.both (required path "amount" checkInteger fields)
        (required path "unit" checkText fields))
      (refuseOthers path ["amount", "unit"] fields)).map Prod.fst
  | _ => .fail path (.notObject "OffsetTokens")

/-- The parts put together, unless there is a final rounding and no offset for it to follow. -/
def assemble (keyword : String) (rounding : Option String) (offset : Option (Int × String))
    (finalRounding : Option String) : Checked Tokens :=
  match offset, finalRounding with
  | none, some _ => .fail [] .roundingWithoutOffset
  | none, none => .ok { keyword, rounding, offset := none }
  | some (amount, unit), finalRounding =>
    .ok { keyword, rounding, offset := some { amount, unit, rounding := finalRounding } }

def Tokens.ofDatum [Text.Numerals] : Datum → Checked Tokens
  | .object fields => do
    let checked := Checked.both
      (Checked.both
        (Checked.both (required [] "now" checkText fields)
          (optional [] "now_rounding" checkText fields))
        (Checked.both (optional [] "offset" checkOffset fields)
          (optional [] "final_rounding" checkText fields)))
      (refuseOthers [] ["now", "now_rounding", "offset", "final_rounding"] fields)
    let (((keyword, rounding), (offset, finalRounding)), ()) ← checked
    assemble keyword rounding offset finalRounding
  | _ => .fail [] (.notObject "RawTokens")

/-! ## Tokens back to data -/

def Datum.ofText? : Option String → Datum
  | some value => .text value
  | none => .null

def OffsetTokens.datum (offset : OffsetTokens) : Datum :=
  .object [("amount", .int offset.amount), ("unit", .text offset.unit)]

def Tokens.datum (tokens : Tokens) : Datum :=
  .object [("now", .text tokens.keyword), ("now_rounding", .ofText? tokens.rounding),
    ("offset", tokens.offset.elim .null OffsetTokens.datum),
    ("final_rounding", .ofText? tokens.finalRounding)]

/-! ## Groups as data -/

/-- The data that the named parts of a written form are handed on as. Where there are digits there
is an offset, with the digits as its amount, negated after a minus sign. -/
def Groups.datum (groups : Groups) : Datum :=
  .object [("now", .text (String.ofList groups.keyword)),
    ("now_rounding", .ofText? (groups.rounding.map String.ofList)),
    ("offset", groups.digits.elim .null fun digits =>
      .object [
        ("amount", .int (if groups.sign = some '-' then -(Text.decimalValue digits : Int)
          else Text.decimalValue digits)),
        ("unit", .ofText? (groups.unit.map String.ofList))]),
    ("final_rounding", .ofText? (groups.finalRounding.map String.ofList))]

/-! ## Checking what was written -/

/-- The check accepts the data of tokens and gives the tokens back. -/
theorem Tokens.ofDatum_datum [Text.Numerals] (tokens : Tokens) :
    Tokens.ofDatum tokens.datum = .ok tokens := by
  obtain ⟨keyword, rounding, offset⟩ := tokens
  cases offset with
  | none => cases rounding <;> rfl
  | some offset =>
    obtain ⟨amount, unit, finalRounding⟩ := offset
    cases rounding <;> cases finalRounding <;> rfl

/-- The parts of a written form are handed on as the data of its tokens. -/
theorem Form.datum_groups (form : Form) : form.groups.datum = form.tokens.datum := by
  obtain ⟨keyword, rounding, offset⟩ := form
  cases offset with
  | none => rfl
  | some offset =>
    obtain ⟨isNegative, digits, unit, finalRounding⟩ := offset
    cases isNegative <;> rfl

end Expression

end RelativeTime
