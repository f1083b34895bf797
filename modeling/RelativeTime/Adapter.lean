import RelativeTime.Run

/-!
# Adapters

The meaning of expressions is open in the kind of time value they denote. An adapter supplies it: a
clock that shows the current time, and for every unit the addition of an amount and the rounding to
the boundaries of its periods. Any of these may fail.
-/

namespace RelativeTime

/-- Which boundary of a period a rounding goes to. -/
inductive Direction where
  | down
  | up
  deriving DecidableEq

def Direction.name : Direction → String
  | .down => "round-down"
  | .up => "round-up"

def Direction.ofName? : String → Option Direction
  | "round-down" => some .down
  | "round-up" => some .up
  | _ => none

/-- What every call of an adapter can see besides its arguments. -/
structure Context (ζ : Type) where
  timezone : ζ

/-- Time arithmetic over units `υ`, time values `τ`, time zones `ζ` and errors `ε`. -/
structure Adapter (υ τ ζ ε : Type) where
  clock : Context ζ → Except ε τ
  add : υ → τ → Int → Context ζ → Except ε τ
  round : υ → Direction → τ → Context ζ → Except ε τ
  /-- Whether the one time comes after the other. -/
  isAfter : τ → τ → Bool

/-- What an adapter is asked to do. -/
inductive Operation (υ : Type) where
  | readClock
  | add (unit : υ) (amount : Int)
  | round (unit : υ) (direction : Direction)
  deriving DecidableEq

/-- An operation that succeeded, with the time that it returned. -/
structure Step (υ τ : Type) where
  operation : Operation υ
  value : τ
  deriving DecidableEq

/-- A call of an adapter, with everything that the adapter gets to see. -/
inductive Call (υ τ ζ : Type) where
  | readClock (context : Context ζ)
  | add (unit : υ) (amount : Int) (time : τ) (context : Context ζ)
  | round (unit : υ) (direction : Direction) (time : τ) (context : Context ζ)

/-- A call of an adapter and what the adapter answered. -/
structure Exchange (υ τ ζ ε : Type) where
  call : Call υ τ ζ
  answer : Except ε τ

section

variable {υ τ ζ ε : Type}

def Call.operation : Call υ τ ζ → Operation υ
  | .readClock _ => .readClock
  | .add unit amount _ _ => .add unit amount
  | .round unit direction _ _ => .round unit direction

/-- The step that a call was if it succeeded. -/
def Exchange.step? (exchange : Exchange υ τ ζ ε) : Option (Step υ τ) :=
  match exchange.answer with
  | .ok value => some ⟨exchange.call.operation, value⟩
  | .error _ => none

namespace Adapter

/-- What the adapter answers to a call. -/
def answer (adapter : Adapter υ τ ζ ε) : Call υ τ ζ → Except ε τ
  | .readClock context => adapter.clock context
  | .add unit amount time context => adapter.add unit time amount context
  | .round unit direction time context => adapter.round unit direction time context

def perform (adapter : Adapter υ τ ζ ε) (call : Call υ τ ζ) : Run (Exchange υ τ ζ ε) ε τ :=
  Run.single ⟨call, adapter.answer call⟩ (adapter.answer call)

def performRound? (adapter : Adapter υ τ ζ ε) (unit? : Option υ) (direction : Direction) (time : τ)
    (context : Context ζ) : Run (Exchange υ τ ζ ε) ε τ :=
  match unit? with
  | some unit => adapter.perform (.round unit direction time context)
  | none => Run.done time

end Adapter

end

end RelativeTime
