import RelativeTime.CommandLine.Evaluate
import RelativeTime.Zone.Recent
import Std.Time.DateTime.Timestamp

/-!
# The program

Runs the command with the arguments, the environment and the clock of the process, and prints its
outcome. Entries of the log are marked with the instant at which the command started.
-/

namespace RelativeTime.Program

open CommandLine

/-- The names of the variables that are read: those of the settings in lower or upper case, and those that an
environment file refers to. -/
def variableNames (dotenv : Option String) : List String :=
  let names := Setting.all.map Setting.variableName
  (names.map String.toLower ++ names ++ (dotenv.map Dotenv.references).getD []).eraseDups

/-- The variables of the process under the given names. -/
def readVariables (names : List String) : IO (List (String × String)) := do
  let mut found := []
  for name in names do
    if let some value ← IO.getEnv name then
      found := found ++ [(name, value)]
  return found

/-- The environment file of the working directory, if there is one. -/
def readDotenv : IO (Option String) := do
  try
    return some (← IO.FS.readFile ".env")
  catch _ =>
    return none

def readClock : IO Instant := do
  let timestamp ← Std.Time.Timestamp.now
  let micros := timestamp.toNanosecondsSinceUnixEpoch.val / 1000
  return { nanos := epoch1970 * 1000000000 + micros * 1000, isFine := false }

/-- The mark of an entry of the log: date, time of day and milliseconds. -/
def entryMark (now : Instant) : String :=
  let text := Text.Iso.secondText (now.nanos / 1000000000)
  let millis := (now.nanos / 1000000 % 1000).toNat
  String.ofList (text.map (fun c => if c = 'T' then ' ' else c) ++ ',' :: Text.padded 3 millis)

def printReport (now : Instant) : Report → IO Unit
  | .plain text => IO.eprintln text
  | .log entry =>
    IO.eprintln (entryMark now ++ " " ++ entry.level.name ++ " " ++ entry.source ++ " " ++ entry.text)

end RelativeTime.Program

open RelativeTime RelativeTime.Program

def main (arguments : List String) : IO UInt32 := do
  let dotenv ← readDotenv
  let environment ← readVariables (variableNames dotenv)
  let now ← readClock
  let outcome := CommandLine.run arguments { environment, dotenv, now }
  for line in outcome.output do
    IO.println line
  for report in outcome.reports do
    printReport now report
  match outcome.ending with
  | .exit code => return UInt32.ofNat code
  | .unknownLevel word =>
    IO.eprintln (CommandLine.unknownLevelMessage word)
    return 1
  | .zone error =>
    IO.eprintln error.message
    return 1
