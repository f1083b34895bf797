import RelativeTime.Text.Blank
import RelativeTime.Text.Decimal

/-!
# Numerals

Texts that stand for integers. Data that should hold an integer may hold a text in its place, and which texts
are taken is for the library that converts them to say, so what is said about such data holds of every reading
of numerals. The one that is used takes decimal digits with single underscores between them, a sign in front,
zeros behind a point, and blanks around all of it.
-/

namespace RelativeTime.Text

/-- Why a text stands for no integer. -/
inductive NumeralProblem where
  | malformed
  /-- It has more digits than are converted. -/
  | tooLong
  deriving DecidableEq

/-- A reading of texts as integers. -/
class Numerals where
  readNumeral : String → Except NumeralProblem Int

export Numerals (readNumeral)

/-- The most digits that a numeral may have. -/
def numeralLimit : Nat := 4300

/-- What stands before the point, if there are only zeros behind it. -/
def wholePart? (cs : List Char) : Option (List Char) :=
  match cs.dropWhile (· != '.') with
  | [] => some cs
  | _ :: zeros =>
    if !zeros.isEmpty && zeros.all (· == '0') then some (cs.takeWhile (· != '.')) else none

/-- The digits of a numeral without a sign. -/
def numeralDigits? (cs : List Char) : Option (List Char) := do
  let groups := (← wholePart? cs).splitOn '_'
  if groups.all fun digits => !digits.isEmpty && digits.all Char.isDigit then some groups.flatten else none

def readUnsigned (cs : List Char) : Except NumeralProblem Int :=
  match numeralDigits? cs with
  | none => .error .malformed
  | some digits => if digits.length ≤ numeralLimit then .ok (decimalValue digits) else .error .tooLong

def readDecimalNumeral (text : String) : Except NumeralProblem Int :=
  match trim text.toList with
  | '-' :: cs => (readUnsigned cs).map (- ·)
  | '+' :: cs => readUnsigned cs
  | cs => readUnsigned cs

instance : Numerals where
  readNumeral := readDecimalNumeral

end RelativeTime.Text
