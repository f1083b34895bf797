import RelativeTime.Bindings
import RelativeTime.Text.Blank
import RelativeTime.Text.Quoted

/-!
# Environment files

An environment file assigns texts to names, one `NAME=VALUE` a line. A line may start with `export`,
a value may stand between quotes, in which case it can hold line breaks and escapes, and a `#` starts
a comment. A line that is none of this is skipped. The last assignment of a name counts; a name
without an equals sign is bound to nothing.

A value may refer to other names, each by a dollar sign and the name in braces. What the file has bound
before counts first, then the environment.
-/

namespace RelativeTime

namespace Dotenv

open Text (isBlank backslash apostrophe doubleQuote)

/-! ## Lines -/

def isLineBreak (c : Char) : Bool := c = '\n' || c = '\r'

/-- A blank that stays on the line. -/
def isInlineBlank (c : Char) : Bool := isBlank c && !isLineBreak c

/-- The text without the blanks at its front, up to the end of the line. -/
def skipBlanks (cs : List Char) : List Char := cs.dropWhile isInlineBlank

def lineBreak? : List Char → Option (List Char)
  | [] => some []
  | '\r' :: '\n' :: rest => some rest
  | c :: rest => if isLineBreak c then some rest else none

def nextLine (cs : List Char) : List Char :=
  let rest := cs.dropWhile (!isLineBreak ·)
  (lineBreak? rest).getD rest

/-- The text after the end of a line, which may hold a comment and nothing else. -/
def lineEnd? (cs : List Char) : Option (List Char) :=
  let rest := skipBlanks cs
  match rest with
  | '#' :: comment => lineBreak? (comment.dropWhile (!isLineBreak ·))
  | _ => lineBreak? rest

/-! ## Values -/

/-- The text up to the closing quote, and the rest after it. A quote after a backslash closes only
if no other quote does. -/
def quotedBody? (quote : Char) : List Char → Option (List Char × List Char)
  | [] => none
  | c :: rest =>
    if c = quote then some ([], rest)
    else if c = backslash ∧ rest.head? = some quote then
      match quotedBody? quote rest.tail with
      | some (body, after) => some (c :: quote :: body, after)
      | none => some ([c], rest.tail)
    else (quotedBody? quote rest).map fun (body, after) => (c :: body, after)
termination_by cs => cs.length
decreasing_by all_goals (simp only [List.length_cons, List.length_tail]; omega)

/-- The character that an escape with the letter `c` stands for between double quotes. -/
def doubleQuoteEscape? (c : Char) : Option Char :=
  if c = backslash ∨ c = apostrophe ∨ c = doubleQuote then some c
  else match c with
    | 'a' => some '\x07'
    | 'b' => some '\x08'
    | 'f' => some '\x0c'
    | 'n' => some '\n'
    | 'r' => some '\r'
    | 't' => some '\t'
    | 'v' => some '\x0b'
    | _ => none

/-- The character that an escape with the letter `c` stands for between apostrophes. -/
def singleQuoteEscape? (c : Char) : Option Char :=
  if c = backslash ∨ c = apostrophe then some c else none

def unescape (escape? : Char → Option Char) : List Char → List Char
  | [] => []
  | [c] => [c]
  | c :: d :: rest =>
    if c = backslash then
      match escape? d with
      | some e => e :: unescape escape? rest
      | none => c :: unescape escape? (d :: rest)
    else c :: unescape escape? (d :: rest)

/-- The text before a comment, which needs a blank in front of it. -/
def withoutComment : List Char → List Char
  | [] => []
  | c :: rest =>
    if isBlank c ∧ (rest.dropWhile isBlank).head? = some '#' then [] else c :: withoutComment rest

def value? (cs : List Char) : Option (List Char × List Char) :=
  match cs.head? with
  | none => some ([], cs)
  | some c =>
    if c = apostrophe then
      (quotedBody? c cs.tail).map fun (body, rest) => (unescape singleQuoteEscape? body, rest)
    else if c = doubleQuote then
      (quotedBody? c cs.tail).map fun (body, rest) => (unescape doubleQuoteEscape? body, rest)
    else
      some (Text.trimRight (withoutComment (cs.takeWhile (!isLineBreak ·))),
        cs.dropWhile (!isLineBreak ·))

/-! ## Assignments -/

def skipExport (cs : List Char) : List Char :=
  match cs with
  | 'e' :: 'x' :: 'p' :: 'o' :: 'r' :: 't' :: c :: rest =>
    if isInlineBlank c then skipBlanks rest else cs
  | _ => cs

/-- Whether a character can be part of a name that is not quoted. -/
def isNameCharacter (c : Char) : Bool := !(c = '=' || c = '#' || isBlank c)

def name? (cs : List Char) : Option (List Char × List Char) :=
  let isQuoted := cs.head? = some apostrophe
  let body := if isQuoted then cs.tail else cs
  let inName (c : Char) : Bool := if isQuoted then c ≠ apostrophe else isNameCharacter c
  match body.takeWhile inName, body.dropWhile inName with
  | [], _ => none
  | name, rest =>
    if isQuoted then if rest.isEmpty then none else some (name, rest.tail) else some (name, rest)

/-- An assignment whose line has to end here, or nothing if it does not, and the text after the
line. -/
def close (assignment : String × Option String) (cs : List Char) :
    Option (String × Option String) × List Char :=
  match lineEnd? cs with
  | some rest => (some assignment, rest)
  | none => (none, nextLine cs)

/-- The assignment that starts at the front of a text, if there is one, and the text to go on with.
Where a line makes no sense, the rest of it is left out, which begins after the quoted parts that
have been read. -/
def assignment (cs : List Char) : Option (String × Option String) × List Char :=
  let cs := skipExport cs
  match name? cs with
  | none => (none, nextLine cs)
  | some (name, rest) =>
    match skipBlanks rest with
    | '=' :: rest =>
      let rest := skipBlanks rest
      match value? rest with
      | some (value, rest) => close (String.ofList name, some (String.ofList value)) rest
      | none => (none, nextLine rest)
    | rest => close (String.ofList name, none) rest

def assignments (cs : List Char) : List (String × Option String) :=
  match Text.trimLeft cs with
  | [] => []
  | start =>
    let (found, rest) := if start.head? = some '#' then (none, nextLine start) else assignment start
    let more := if rest.length < cs.length then assignments rest else []
    found.elim more (· :: more)
termination_by cs.length

/-! ## References -/

def openingBrace : Char := '\x7b'

def closingBrace : Char := '\x7d'

/-- A piece of a value: a character, or a reference to a name with a text for the case that nothing is
known of it. -/
inductive Piece where
  | character (c : Char)
  | reference (name fallback : String)

/-- The reference with the given content of its braces. A colon ends the name, and has to be followed by a
dash and the fallback. -/
def Piece.ofReference? (content : List Char) : Option Piece :=
  let name := String.ofList (content.takeWhile (· ≠ ':'))
  match content.dropWhile (· ≠ ':') with
  | [] => some (.reference name "")
  | _ :: '-' :: fallback => some (.reference name (String.ofList fallback))
  | _ => none

/-- The reference up to the next closing brace, and the text after that. -/
def reference? (cs : List Char) : Option (Piece × List Char) :=
  match cs.dropWhile (· ≠ closingBrace) with
  | [] => none
  | _ :: after => (Piece.ofReference? (cs.takeWhile (· ≠ closingBrace))).map fun piece => (piece, after)

theorem length_of_reference {cs after : List Char} {piece : Piece}
    (found : reference? cs = some (piece, after)) : after.length < cs.length := by
  have dropped := (List.dropWhile_sublist (· ≠ closingBrace) (l := cs)).length_le
  rw [reference?] at found
  split at found
  case h_1 => cases found
  case h_2 closing after' rest =>
    obtain ⟨_, -, same⟩ := Option.map_eq_some_iff.mp found
    cases same
    rw [rest, List.length_cons] at dropped
    omega

/-- The pieces of a value. A dollar sign with an opening brace begins a reference if there is one. -/
def pieces : List Char → List Piece
  | [] => []
  | c :: rest =>
    if c = '$' ∧ rest.head? = some openingBrace then
      match _found : reference? rest.tail with
      | some (piece, after) => piece :: pieces after
      | none => .character c :: pieces rest
    else .character c :: pieces rest
termination_by cs => cs.length
decreasing_by
  · have := length_of_reference _found
    simp only [List.length_cons, List.length_tail] at *
    omega
  all_goals simp

/-- What stands in the place of a piece. A name that is bound to nothing leaves nothing behind. -/
def Piece.text (environment : List (String × String)) (bound : List (String × Option String)) :
    Piece → String
  | .character c => c.toString
  | .reference name fallback =>
    match (bound.lookup name).or ((environment.lookup name).map some) with
    | some value => value.getD ""
    | none => fallback

/-- The value with its references replaced. -/
def expanded (environment : List (String × String)) (bound : List (String × Option String))
    (value : String) : String :=
  String.join ((pieces value.toList).map (Piece.text environment bound))

/-- The names that the values of a file refer to. -/
def references (text : String) : List String :=
  (assignments text.toList).flatMap fun (_, value) =>
    (pieces (value.getD "").toList).filterMap fun
      | .reference name _ => some name
      | .character _ => none

/-! ## The file -/

/-- The names that a file assigns in the order of their first assignment, with their last values. -/
def bindings (environment : List (String × String)) (text : String) : List (String × Option String) :=
  (assignments text.toList).foldl (fun bound (name, value) =>
    Bindings.bind name (value.map (expanded environment bound)) bound) []

end Dotenv

end RelativeTime
