import RelativeTime.Config
import RelativeTime.Expression.Resolved

/-!
# Parsers

A parser is a usable configuration. Parsing an expression checks the direction, reads the tokens,
resolves them and evaluates the result, in this order, so that no adapter is called before the
expression is known to make sense. Parsing a range parses its start downwards and its end upwards
and refuses a start after the end. The dialogue with the adapter has every call on record; parsing
keeps the steps that succeeded.
-/

namespace RelativeTime

open Expression (ParseError ReadError Resolved Tokens)

/-- Why an expression or a range has no value; `ε` are the errors of the adapter. -/
inductive Failure (ε : Type) where
  | unknownDirection (name : String)
  | tooManyDigits (count : Nat)
  | parse (error : ParseError)
  | reversedRange (start stop : String)
  | adapter (error : ε)
  deriving DecidableEq

namespace Failure

variable {ε : Type}

def ofRead : ReadError → Failure ε
  | .malformed text => .parse (.malformed text)
  | .tooManyDigits count => .tooManyDigits count

/-- The text of the failure, given that of the adapter's errors. -/
def message (adapterMessage : ε → String) : Failure ε → String
  | .unknownDirection name => Text.quoted name ++ " is not a valid RoundingDirection"
  | .tooManyDigits count =>
    "Exceeds the limit (" ++ toString Expression.digitLimit ++
      " digits) for integer string conversion: value has " ++ toString count ++
      " digits; use sys.set_int_max_str_digits() to increase the limit"
  | .parse error => error.message
  | .reversedRange start stop =>
    "range start " ++ Text.quoted start ++ " is after range end " ++ Text.quoted stop
  | .adapter error => adapterMessage error

end Failure

/-- A configuration that has been checked. -/
structure Parser (υ ζ : Type) where
  config : Config υ ζ

namespace Parser

variable {υ τ ζ ε : Type} [Text.Alphabet]

/-- The parser of a configuration, which must have a keyword and a unit. -/
def create (config : Config υ ζ) : Except ConfigError (Parser υ ζ) :=
  if config.keywords.isEmpty then .error .noKeywords
  else if config.units.isEmpty then .error .noUnits
  else .ok ⟨config⟩

/-- The meaning of a text: its tokens with units for their names. -/
def resolve (parser : Parser υ ζ) (text : String) : Except (Failure ε) (Resolved υ) := do
  let tokens ← (Tokens.read text).mapError Failure.ofRead
  (tokens.resolve parser.config.keywords parser.config.units).mapError Failure.parse

/-- What the calls of the adapter see; a time zone given for the call comes before the configured
one. -/
def context (parser : Parser υ ζ) (timezone : Option ζ) : Context ζ :=
  ⟨timezone.getD parser.config.timezone⟩

/-! ## Dialogues -/

/-- The dialogue that finds the time which an expression denotes, rounding in the given
direction. -/
def dialogue (parser : Parser υ ζ) (adapter : Adapter υ τ ζ ε) (text : String)
    (direction : Direction) (timezone : Option ζ) : Run (Exchange υ τ ζ ε) (Failure ε) τ := do
  let resolved ← Run.ofExcept (parser.resolve text)
  (resolved.evaluate adapter direction (parser.context timezone)).mapError Failure.adapter

/-- The dialogue for an expression, rounding in the direction with the given word. -/
def dialogueNamed (parser : Parser υ ζ) (adapter : Adapter υ τ ζ ε) (text direction : String)
    (timezone : Option ζ) : Run (Exchange υ τ ζ ε) (Failure ε) τ :=
  match Direction.ofName? direction with
  | some direction => parser.dialogue adapter text direction timezone
  | none => Run.failed (.unknownDirection direction)

def dialogueRange (parser : Parser υ ζ) (adapter : Adapter υ τ ζ ε) (start stop : String)
    (timezone : Option ζ) : Run (Exchange υ τ ζ ε) (Failure ε) (τ × τ) := do
  let first ← parser.dialogue adapter start .down timezone
  let last ← parser.dialogue adapter stop .up timezone
  if adapter.isAfter first last then Run.failed (.reversedRange start stop)
  else return (first, last)

/-! ## Parsing -/

/-- The time that an expression denotes, rounding in the given direction. -/
def parse (parser : Parser υ ζ) (adapter : Adapter υ τ ζ ε) (text : String) (direction : Direction)
    (timezone : Option ζ) : Run (Step υ τ) (Failure ε) τ :=
  (parser.dialogue adapter text direction timezone).pick Exchange.step?

/-- The time that an expression denotes, rounding in the direction with the given word. -/
def parseNamed (parser : Parser υ ζ) (adapter : Adapter υ τ ζ ε) (text direction : String)
    (timezone : Option ζ) : Run (Step υ τ) (Failure ε) τ :=
  (parser.dialogueNamed adapter text direction timezone).pick Exchange.step?

def parseRange (parser : Parser υ ζ) (adapter : Adapter υ τ ζ ε) (start stop : String)
    (timezone : Option ζ) : Run (Step υ τ) (Failure ε) (τ × τ) :=
  (parser.dialogueRange adapter start stop timezone).pick Exchange.step?

end Parser

end RelativeTime
