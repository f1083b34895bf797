/-!
# Zone keys

A key names a zone by a relative path such as `Europe/Berlin`. Before any look-up the path itself is
checked: it must be relative, written in its shortest form, and must not lead out of the directory
of zones.
-/

namespace RelativeTime

/-- Why nothing is found under a key whose path is accepted: there is no such zone, what is there
describes no zone, it cannot be opened, or the path leads deeper than a look-up can go. -/
inductive LookupError where
  | unknown
  | malformed (message : String)
  | inaccessible (message : String)
  | tooDeep (message : String)
  deriving DecidableEq

/-- Why a key gives no zone: its path is refused, the look-up fails, or there is nothing to look up. -/
inductive ZoneKeyError where
  | absolute (key : String)
  | unnormalized (key : String)
  | outside (key : String)
  | lookup (key : String) (error : LookupError)
  | empty
  deriving DecidableEq

namespace ZoneKeyError

def message : ZoneKeyError → String
  | .absolute key => "ZoneInfo keys may not be absolute paths, got: " ++ key
  | .unnormalized key => "ZoneInfo keys must be normalized relative paths, got: " ++ key
  | .outside key => "ZoneInfo keys must refer to subdirectories of TZPATH, got: " ++ key
  | .lookup key .unknown => "No time zone found with key " ++ key
  | .lookup _ (.malformed message) => message
  | .lookup _ (.inaccessible message) => message
  | .lookup _ (.tooDeep message) => message
  | .empty => "string index out of range"

/-- Whether the key, or what it leads to, has a wrong form. -/
def isInvalid : ZoneKeyError → Bool
  | .absolute _ | .unnormalized _ | .outside _ => true
  | .lookup _ (.malformed _) => true
  | .lookup _ _ | .empty => false

/-- Whether the error answers the question for the zone, in place of an end of the look-up half-way. -/
def namesNoZone (error : ZoneKeyError) : Bool :=
  match error with
  | .lookup _ .unknown => true
  | _ => error.isInvalid

/-- Whether the look-up went too deep. -/
def isTooDeep : ZoneKeyError → Bool
  | .lookup _ (.tooDeep _) => true
  | _ => false

end ZoneKeyError

namespace ZoneKey

def parts (key : List Char) : List (List Char) :=
  key.splitOn '/'

/-- Whether a path of these parts is in its shortest form: steps upwards come first, and no part is
empty or stays where it is. The path `.` is its own shortest form. -/
def isShortest (parts : List (List Char)) : Bool :=
  parts = [['.']] ||
    (parts.dropWhile (· = ['.', '.'])).all fun part =>
      part ≠ [] && part ≠ ['.'] && part ≠ ['.', '.']

/-- Whether a path of these parts stays at the directory of zones or leaves it. -/
def leaves (parts : List (List Char)) : Bool :=
  match parts with
  | part :: _ => part = ['.'] || part = ['.', '.']
  | [] => true

def problem? (key : String) : Option ZoneKeyError :=
  let parts := parts key.toList
  if key.toList.head? = some '/' then some (.absolute key)
  else if !isShortest parts then some (.unnormalized key)
  else if leaves parts then some (.outside key)
  else none

end ZoneKey

end RelativeTime
