import RelativeTime.CommandLine.Arguments
import RelativeTime.CommandLine.Outcome
import RelativeTime.Settings

/-!
# The command

The command evaluates its expressions and prints a line for each, or prints the bounds of a range.
It stops at the first expression without a value. What it does is a function of its arguments, the
environment and the instant of the clock; the outcome holds what is printed and logged and how the
command ends.
-/

namespace RelativeTime

namespace CommandLine

/-! ## Settings -/

/-- The longest text of a value that is shown in full, in bytes. -/
def shownBytes : Nat := 50

/-- The longest front of a text that fits into `limit` bytes. -/
def takeBytes (limit : Nat) : List Char → List Char
  | [] => []
  | c :: rest => if c.utf8Size ≤ limit then c :: takeBytes (limit - c.utf8Size) rest else []

/-- The text, or its two ends if it is too long. -/
def shortened (text : String) : String :=
  if text.utf8ByteSize ≤ shownBytes then text
  else
    let front := takeBytes 25 text.toList
    let back := (takeBytes 24 text.toList.reverse).reverse
    String.ofList (front ++ ['.', '.', '.'] ++ back)

def describeError (error : Settings.SettingError) : List String :=
  [error.variableName,
    "  " ++ error.message ++ " [type=" ++ error.problem.code ++ ", input_value=" ++
      shortened (Text.quoted error.value) ++ ", input_type=str]"]

def describeErrors (errors : List Settings.SettingError) : String :=
  "\n".intercalate (Settings.errorSummary errors :: errors.flatMap describeError)

/-- The text about settings that cannot be loaded. A look-up that cannot read what it finds is not
answered. -/
def describeLoadError : Settings.LoadError → Except ZoneKeyError String
  | .invalid errors => .ok (describeErrors errors)
  | .timezone error => if error.isTooDeep then .ok error.message else .error error

/-! ## Evaluating -/

/-- The reports about an expression or a range that has no value. -/
def rejection (threshold : Nat) (failure : Failure AdapterError) (message : String) :
    List Report :=
  let text := match failure with
    | .parse error =>
      "rejected kind=" ++ error.kind.name ++ " position=" ++
        (error.slot.map Expression.Slot.name).getD "None" ++ " value=" ++ Text.quoted error.value
    | _ => "rejected reason=" ++ message
  logged threshold .info "nowish.cli" text ++ [.plain ("nowish: " ++ message)]

/-- The error about a zone that leaves the command with the failure of an expression. -/
def unansweredZone? : Failure AdapterError → Option ZoneKeyError
  | .adapter (.zone error) => if error.isInvalid then none else some error
  | _ => none

/-- What the evaluation of the command works with. -/
structure Workplace where
  parser : Parser TimeUnit ZoneRef
  kind : TimeKind
  now : Instant
  timezone : Option ZoneRef
  threshold : Nat

namespace Workplace

/-- The end of the command at an expression or a range that has no value. Of zone keys only a wrong form is
answered here, since they are looked up before. -/
def rejected (work : Workplace) (failure : Failure AdapterError) : Outcome :=
  match unansweredZone? failure with
  | some error => .ended (.zone error)
  | none => (Outcome.ended (.exit invalidCode)).reporting
    (rejection work.threshold failure (failure.message AdapterError.message))

section

variable [ZoneDatabase]

def evaluate (work : Workplace) (direction : Direction) (text : String) :
    Except (Failure AdapterError) String :=
  match work.kind with
  | .moment =>
    (work.parser.parse (Moment.adapter work.now) text direction work.timezone).result.map
      Moment.isoText
  | .stamp =>
    (work.parser.parse (Stamp.adapter work.now) text direction work.timezone).result.map
      Stamp.isoText

def bounds {τ : Type} (render : τ → String) (range : τ × τ) : String :=
  render range.1 ++ "/" ++ render range.2

def evaluateRange (work : Workplace) (start stop : String) :
    Except (Failure AdapterError) String :=
  match work.kind with
  | .moment =>
    (work.parser.parseRange (Moment.adapter work.now) start stop work.timezone).result.map
      (bounds Moment.isoText)
  | .stamp =>
    (work.parser.parseRange (Stamp.adapter work.now) start stop work.timezone).result.map
      (bounds Stamp.isoText)

/-- Prints a line for every expression up to the first without a value. -/
def evaluateAll (work : Workplace) (direction : Direction) : List String → Outcome
  | [] => .ended (.exit 0)
  | text :: rest =>
    match work.evaluate direction text with
    | .ok line => (work.evaluateAll direction rest).printing line
    | .error failure => work.rejected failure

def perform (work : Workplace) (arguments : Arguments) : Outcome :=
  if arguments.range then
    match arguments.expressions with
    | [start, stop] =>
      match work.evaluateRange start stop with
      | .ok line => (Outcome.ended (.exit 0)).printing line
      | .error failure => work.rejected failure
    | expressions =>
      failedWith work.threshold
        ("--range takes exactly two expressions, got " ++ toString expressions.length)
  else
    work.evaluateAll (if arguments.roundUp then .up else .down) arguments.expressions

end

end Workplace

/-! ## The configuration -/

/-- The text about a zone key. A key that is not known is shown with its whole message quoted. -/
def describeKey (error : ZoneKeyError) : String :=
  match error with
  | .lookup _ .unknown => Text.quoted error.message
  | _ => error.message

def nonEmpty? (text : Option String) : Option String :=
  text.filter (!·.isEmpty)

/-- Looks up a time zone given as an option. -/
def checkTimezone [ZoneDatabase] (arguments : Arguments) : Except ZoneKeyError Unit :=
  match nonEmpty? arguments.timezone with
  | some key => (Zone.named key).map fun _ => ()
  | none => .ok ()

/-- The settings with the options of the command in place of the variables. -/
def overridden (settings : Settings) (arguments : Arguments) : Settings :=
  { settings with
    adapter := (arguments.adapter.bind TimeKind.ofName?).getD settings.adapter
    locales :=
      if arguments.locales.isEmpty then settings.locales else Settings.joined arguments.locales }

def readyText (settings : Settings) (parser : Parser TimeUnit ZoneRef) : String :=
  let locales := Settings.joined settings.localeCodes
  "parser ready adapter=" ++ settings.adapter.name ++ " timezone=" ++ settings.timezone ++
    " locales=" ++ (if locales.isEmpty then "-" else locales) ++ " units=" ++
    toString parser.config.units.entries.length

/-! ## The command -/

/-- Where the command runs: the environment, the environment file if there is one, and the instant
that the clock shows. -/
structure Surroundings where
  environment : List (String × String)
  dotenv : Option String
  now : Instant

/-- The first text that is there and not empty, and the word for the usual threshold otherwise. -/
def levelWord (candidates : List (Option String)) : String :=
  (candidates.findSome? nonEmpty?).getD Setting.logLevel.fallback

/-- What the arguments are evaluated with once there is a parser for the settings. -/
def workplace (threshold : Nat) (settings : Settings) (parser : Parser TimeUnit ZoneRef)
    (arguments : Arguments) (now : Instant) : Workplace where
  parser := parser
  kind := settings.adapter
  now := now
  timezone := arguments.timezone.map ZoneRef.named
  threshold := threshold

section

variable [ZoneDatabase]

def evaluateWith (threshold : Nat) (settings : Settings) (arguments : Arguments) (now : Instant) :
    Outcome :=
  match checkTimezone arguments with
  | .error error =>
    if error.namesNoZone then failedWith threshold ("configuration failed: " ++ describeKey error)
    else .ended (.zone error)
  | .ok () =>
    let settings := overridden settings arguments
    match settings.parser with
    | .error error => failedWith threshold ("configuration failed: " ++ error.message)
    | .ok parser =>
      ((workplace threshold settings parser arguments now).perform arguments).reporting
        (logged threshold .debug "nowish.app" (readyText settings parser))

def evaluate (arguments : Arguments) (surroundings : Surroundings) : Outcome :=
  let inherited := surroundings.environment.lookup Setting.logLevel.variableName
  match Settings.load surroundings.environment surroundings.dotenv with
  | .error error =>
    match describeLoadError error with
    | .error error => .ended (.zone error)
    | .ok text =>
      match threshold (levelWord [arguments.logLevel, inherited]) with
      | .error word => .ended (.unknownLevel word)
      | .ok threshold => failedWith threshold ("configuration failed: " ++ text)
  | .ok settings =>
    match threshold (levelWord [arguments.logLevel, some settings.logLevel, inherited]) with
    | .error word => .ended (.unknownLevel word)
    | .ok threshold => evaluateWith threshold settings arguments surroundings.now

def run (arguments : List String) (surroundings : Surroundings) : Outcome :=
  match Request.ofArguments arguments with
  | .error error =>
    (Outcome.ended (.exit invalidCode)).reporting [.plain ("nowish: error: " ++ error.message)]
  | .ok .help => .ended (.exit 0)
  | .ok (.evaluate arguments) => evaluate arguments surroundings

end

end CommandLine

end RelativeTime
