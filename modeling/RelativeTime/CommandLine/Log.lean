import RelativeTime.Text.Quoted
import RelativeTime.Text.Uppercase

/-!
# Logging

A log entry has a level and is shown if its level reaches the threshold. The threshold is named by a
word in any case; the words for the same level are synonyms, and `NOTSET` shows everything.
-/

namespace RelativeTime

namespace CommandLine

/-- The levels of the entries that are written. -/
inductive LogLevel where
  | debug
  | info
  | error
  deriving DecidableEq

def LogLevel.weight : LogLevel → Nat
  | .debug => 10
  | .info => 20
  | .error => 40

def LogLevel.name : LogLevel → String
  | .debug => "DEBUG"
  | .info => "INFO"
  | .error => "ERROR"

def thresholds : List (String × Nat) := [
  ("CRITICAL", 50), ("FATAL", 50), ("ERROR", 40), ("WARN", 30), ("WARNING", 30), ("INFO", 20),
  ("DEBUG", 10), ("NOTSET", 0)]

/-- The threshold with the given word in any case, or the word in upper case if there is none. -/
def threshold (word : String) : Except String Nat :=
  let upper := Text.uppercase word
  match thresholds.lookup upper with
  | some weight => .ok weight
  | none => .error upper

/-- An entry of the log, with the name of the part of the program that wrote it. -/
structure LogEntry where
  level : LogLevel
  source : String
  text : String

def LogEntry.line (entry : LogEntry) : String :=
  entry.level.name ++ " " ++ entry.source ++ " " ++ entry.text

end CommandLine

end RelativeTime
