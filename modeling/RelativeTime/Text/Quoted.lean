import RelativeTime.Text.Printable

/-!
# Quoted texts

Names that come from outside are shown quoted in messages and log lines, so that blanks, quotes and
invisible characters in them can be told apart. The quote is the apostrophe unless the text holds
apostrophes and no double quotes. The quote in use and the backslash are written after a backslash,
and characters that do not print as themselves are written by their code.
-/

namespace RelativeTime.Text

/-- The hexadecimal digits of `n` in lower case, on `width` places. -/
def hexDigits (n : Nat) : Nat → List Char
  | 0 => []
  | width + 1 => hexDigits (n / 16) width ++ [Nat.digitChar (n % 16)]

def apostrophe : Char := '\x27'

def doubleQuote : Char := '\x22'

def backslash : Char := '\x5c'

/-- The quote that surrounds a text: the double quote only where that saves writing backslashes. -/
def quoteFor (text : List Char) : Char :=
  if text.contains apostrophe && !text.contains doubleQuote then doubleQuote else apostrophe

/-- A character that does not print as itself, by its code on the fewest of 2, 4 or 8 places. -/
def escapeCode (code : Nat) : List Char :=
  if code < 0x100 then backslash :: 'x' :: hexDigits code 2
  else if code < 0x10000 then backslash :: 'u' :: hexDigits code 4
  else backslash :: 'U' :: hexDigits code 8

/-- How one character is written between the quotes. -/
def escape (quote c : Char) : List Char :=
  if c = quote ∨ c = backslash then [backslash, c]
  else if c = '\n' then [backslash, 'n']
  else if c = '\r' then [backslash, 'r']
  else if c = '\t' then [backslash, 't']
  else if isPrintable c then [c]
  else escapeCode c.toNat

def quoted (text : String) : String :=
  let quote := quoteFor text.toList
  String.ofList (quote :: text.toList.flatMap (escape quote) ++ [quote])

end RelativeTime.Text
