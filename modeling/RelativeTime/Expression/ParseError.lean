import RelativeTime.Text.Quoted

/-!
# Parse errors

A parse error is about the structure of an expression or about one name in it. An error about a name
says which slot of the expression the name stands in; an error about the structure need not.
-/

namespace RelativeTime

namespace Expression

/-- The families of parse errors. -/
inductive ErrorKind where
  | invalidStructure
  | invalidValue
  deriving DecidableEq

/-- The slots of an expression that hold a name, from left to right. -/
inductive Slot where
  | nowKeyword
  | nowRounding
  | offset
  | finalRounding
  deriving DecidableEq

def ErrorKind.name : ErrorKind → String
  | .invalidStructure => "invalid-structure"
  | .invalidValue => "invalid-value"

def ErrorKind.ofName? : String → Option ErrorKind
  | "invalid-structure" => some .invalidStructure
  | "invalid-value" => some .invalidValue
  | _ => none

def ErrorKind.unknownMessage (name : String) : String :=
  Text.quoted name ++ " is not a valid ErrorKind"

def Slot.name : Slot → String
  | .nowKeyword => "now-keyword"
  | .nowRounding => "now-rounding"
  | .offset => "offset"
  | .finalRounding => "final-rounding"

def Slot.ofName? : String → Option Slot
  | "now-keyword" => some .nowKeyword
  | "now-rounding" => some .nowRounding
  | "offset" => some .offset
  | "final-rounding" => some .finalRounding
  | _ => none

def Slot.unknownMessage (name : String) : String :=
  Text.quoted name ++ " is not a valid ErrorPosition"

/-- An error with the text it is about and the slot of that text. An error about a name has a
slot. -/
structure ParseError where
  kind : ErrorKind
  value : String
  slot : Option Slot
  located : kind = .invalidValue → slot.isSome
  deriving DecidableEq

namespace ParseError

def malformed (text : String) : ParseError :=
  ⟨.invalidStructure, text, none, by simp⟩

def unknownName (slot : Slot) (value : String) : ParseError :=
  ⟨.invalidValue, value, some slot, by simp⟩

/-- The error with the given parts, unless it is about a name and has no slot. -/
def ofParts? (kind : ErrorKind) (value : String) (slot : Option Slot) : Option ParseError :=
  if located : kind = .invalidValue → slot.isSome then some ⟨kind, value, slot, located⟩ else none

/-- The text about an error that is about a name and has no slot. -/
def missingSlotMessage : String := "invalid-value errors require a position"

def message (error : ParseError) : String :=
  match error.kind, error.slot with
  | .invalidValue, some slot => "invalid " ++ slot.name ++ ": '" ++ error.value ++ "'"
  | _, _ => "invalid expression: '" ++ error.value ++ "'"

end ParseError

end Expression

end RelativeTime
