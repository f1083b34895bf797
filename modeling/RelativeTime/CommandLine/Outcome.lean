import RelativeTime.CommandLine.Log
import RelativeTime.Zone.Key

/-!
# Outcomes

What a run of the command leaves behind: the lines of its output, the reports on its error stream in
their order, and the way it ends.
-/

namespace RelativeTime

namespace CommandLine

/-- A line of the error stream: an entry of the log or a message of the command. -/
inductive Report where
  | log (entry : LogEntry)
  | plain (text : String)

/-- How the command ends: with an exit code, or with an error that nothing in the command answers, about
the threshold of the log or about the look-up of a zone. -/
inductive Ending where
  | exit (code : Nat)
  | unknownLevel (word : String)
  | zone (error : ZoneKeyError)
  deriving DecidableEq

def unknownLevelMessage (word : String) : String :=
  "Unknown level: " ++ Text.quoted word

/-- What the command prints and how it ends. -/
structure Outcome where
  output : List String
  reports : List Report
  ending : Ending

/-- The exit code after wrong usage, a wrong configuration or a rejected expression. -/
def invalidCode : Nat := 2

namespace Outcome

def ended (ending : Ending) : Outcome := ⟨[], [], ending⟩

def reporting (reports : List Report) (outcome : Outcome) : Outcome :=
  { outcome with reports := reports ++ outcome.reports }

def printing (line : String) (outcome : Outcome) : Outcome :=
  { outcome with output := line :: outcome.output }

end Outcome

def logged (threshold : Nat) (level : LogLevel) (source text : String) : List Report :=
  if threshold ≤ level.weight then [.log { level, source, text }] else []

def failedWith (threshold : Nat) (text : String) : Outcome :=
  (Outcome.ended (.exit invalidCode)).reporting (logged threshold .error "nowish.cli" text)

end CommandLine

end RelativeTime
