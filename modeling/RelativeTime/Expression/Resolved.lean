import RelativeTime.Adapter
import RelativeTime.Expression.ParseError
import RelativeTime.Expression.Tokens
import RelativeTime.UnitTable

/-!
# Resolved expressions

Resolving replaces the unit names of an expression by units of a table and checks its keyword. The
slots are looked at from left to right, so an error is about the leftmost unknown name. A resolved
expression can be evaluated with any adapter for its units: the clock is read, the time is rounded,
the offset is added and the result is rounded again, both roundings in the same direction.
-/

namespace RelativeTime

namespace Expression

/-- A signed amount of a unit and the rounding that follows. -/
structure ResolvedOffset (υ : Type) where
  amount : Int
  unit : υ
  rounding : Option υ
  deriving DecidableEq

/-- An expression with units in place of their names. -/
structure Resolved (υ : Type) where
  rounding : Option υ
  offset : Option (ResolvedOffset υ)
  deriving DecidableEq

variable {υ : Type}

def Resolved.finalRounding (resolved : Resolved υ) : Option υ :=
  resolved.offset.bind (·.rounding)

/-! ## Resolving -/

def resolveName (units : UnitTable υ) (slot : Slot) (name : String) : Except ParseError υ :=
  match units.find? name with
  | some unit => .ok unit
  | none => .error (.unknownName slot name)

/-- The unit that the name in a slot stands for, if there is a name. -/
def resolveName? (units : UnitTable υ) (slot : Slot) : Option String → Except ParseError (Option υ)
  | some name => (resolveName units slot name).map some
  | none => .ok none

def OffsetTokens.resolve (units : UnitTable υ) (offset : OffsetTokens) :
    Except ParseError (ResolvedOffset υ) := do
  let unit ← resolveName units .offset offset.unit
  let rounding ← resolveName? units .finalRounding offset.rounding
  return { amount := offset.amount, unit, rounding }

/-- The tokens with the units that their names stand for. The keyword has to be one of
`keywords`. -/
def Tokens.resolve (tokens : Tokens) (keywords : List String) (units : UnitTable υ) :
    Except ParseError (Resolved υ) :=
  if keywords.contains tokens.keyword then do
    let rounding ← resolveName? units .nowRounding tokens.rounding
    match tokens.offset with
    | none => return { rounding, offset := none }
    | some offset => return { rounding, offset := some (← offset.resolve units) }
  else
    .error (.unknownName .nowKeyword tokens.keyword)

/-! ## Evaluating -/

/-- The time that the expression denotes, with every call of the adapter on record. -/
def Resolved.evaluate {τ ζ ε : Type} (resolved : Resolved υ) (adapter : Adapter υ τ ζ ε)
    (direction : Direction) (context : Context ζ) : Run (Exchange υ τ ζ ε) ε τ := do
  let time ← adapter.perform (.readClock context)
  let time ← adapter.performRound? resolved.rounding direction time context
  match resolved.offset with
  | none => return time
  | some offset =>
    let time ← adapter.perform (.add offset.unit offset.amount time context)
    adapter.performRound? offset.rounding direction time context

end Expression

end RelativeTime
