import RelativeTime.Text.Quoted
import RelativeTime.UnitTable

/-!
# Configurations

A configuration says which names an expression may use, the keywords for the current time and the
unit names, and which time zone holds where a call does not give one.
-/

namespace RelativeTime

/-- Why a configuration is unusable. -/
inductive ConfigError where
  | noKeywords
  | noUnits
  | duplicateName (name : String)
  | unknownLocale (code : String)
  | conflictingAlias (name : String)
  deriving DecidableEq

def ConfigError.message : ConfigError → String
  | .noKeywords => "now_aliases must not be empty"
  | .noUnits => "units must not be empty"
  | .duplicateName name => "duplicate unit code: " ++ Text.quoted name
  | .unknownLocale code => "unknown locale: " ++ Text.quoted code
  | .conflictingAlias name =>
    "unit alias " ++ Text.quoted name ++ " conflicts with an existing unit"

/-- The names and the time zone that expressions are read with. -/
structure Config (υ ζ : Type) where
  units : UnitTable υ
  timezone : ζ
  keywords : List String

namespace UnitTable

variable {υ : Type}

def insertNew (table : UnitTable υ) (entry : String × υ) : Except ConfigError (UnitTable υ) :=
  match table.find? entry.1 with
  | some _ => .error (.duplicateName entry.1)
  | none => .ok (table.insert entry.1 entry.2)

def ofDistinct (entries : List (String × υ)) : Except ConfigError (UnitTable υ) :=
  entries.foldlM insertNew empty

/-! ## Aliases -/

/-- `table` with one more alias for a unit of `targets`. An alias whose target is not there is
skipped, and one that already stands for another unit is refused. -/
def addAlias [DecidableEq υ] (targets table : UnitTable υ) (entry : String × String) :
    Except ConfigError (UnitTable υ) :=
  match targets.find? entry.2 with
  | none => .ok table
  | some unit =>
    match table.find? entry.1 with
    | none => .ok (table.insert entry.1 unit)
    | some existing =>
      if existing = unit then .ok (table.insert entry.1 unit)
      else .error (.conflictingAlias entry.1)

/-- The table with the aliases, pairs of a new name and a name of the table, added in order. -/
def extend [DecidableEq υ] (table : UnitTable υ) (aliases : List (String × String)) :
    Except ConfigError (UnitTable υ) :=
  aliases.foldlM (addAlias table) table

end UnitTable

end RelativeTime
