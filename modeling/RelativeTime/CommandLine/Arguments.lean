import RelativeTime.Locale
import RelativeTime.Text.DecimalDigit
import RelativeTime.Text.Quoted
import RelativeTime.TimeAdapter

/-!
# Arguments

The arguments of the command are expressions and options, in any order but with all expressions next
to each other. An option can be shortened as long as it stays unique, and its value stands in the
next argument or after an equals sign. Everything after `--` is an expression. Arguments are first
told apart and then consumed from left to right.
-/

namespace RelativeTime

namespace CommandLine

/-- The options of the command. -/
inductive CommandOption where
  | help
  | roundUp
  | range
  | timezone
  | locale
  | adapter
  | logLevel
  deriving DecidableEq

def spellings : List (String × CommandOption) := [
  ("-h", .help), ("--help", .help), ("--round-up", .roundUp), ("--range", .range),
  ("--tz", .timezone), ("--locale", .locale), ("--adapter", .adapter), ("--log-level", .logLevel)]

namespace CommandOption

def name : CommandOption → String
  | .help => "-h/--help"
  | .roundUp => "--round-up"
  | .range => "--range"
  | .timezone => "--tz"
  | .locale => "--locale"
  | .adapter => "--adapter"
  | .logLevel => "--log-level"

def isFlag : CommandOption → Bool
  | .help | .roundUp | .range => true
  | .timezone | .locale | .adapter | .logLevel => false

def choices? : CommandOption → Option (List String)
  | .locale => some (Locale.all.map Locale.code)
  | .adapter => some (TimeKind.all.map TimeKind.name)
  | _ => none

end CommandOption

/-- What the arguments say. -/
structure Arguments where
  expressions : List String
  roundUp : Bool
  range : Bool
  timezone : Option String
  locales : List String
  adapter : Option String
  logLevel : Option String

/-- Why the arguments make no sense. -/
inductive UsageError where
  | ambiguous (argument : String) (candidates : List String)
  | missingValue (option : CommandOption)
  | ignoredValue (option : CommandOption) (value : String)
  | invalidChoice (option : CommandOption) (value : String) (choices : List String)
  | missingExpressions
  | unrecognized (arguments : List String)
  deriving DecidableEq

def UsageError.message : UsageError → String
  | .ambiguous argument candidates =>
    "ambiguous option: " ++ argument ++ " could match " ++ ", ".intercalate candidates
  | .missingValue option => "argument " ++ option.name ++ ": expected one argument"
  | .ignoredValue option value =>
    "argument " ++ option.name ++ ": ignored explicit argument " ++ Text.quoted value
  | .invalidChoice option value choices =>
    "argument " ++ option.name ++ ": invalid choice: " ++ Text.quoted value ++ " (choose from " ++
      ", ".intercalate (choices.map Text.quoted) ++ ")"
  | .missingExpressions => "the following arguments are required: EXPR"
  | .unrecognized arguments => "unrecognized arguments: " ++ " ".intercalate arguments

/-! ## Telling arguments apart -/

/-- The text that is attached to an option: after an equals sign, or right after a single letter. -/
inductive Attached where
  | equals (text : String)
  | letters (text : String)
  deriving DecidableEq

/-- An argument after it has been told what it is. -/
inductive Item where
  | plain (text : String)
  | separator
  | option (option : CommandOption) (attached : Option Attached)
  | unknownOption (text : String)
  deriving DecidableEq

/-- The parts of a text before and after its first equals sign. -/
def splitEquals? (cs : List Char) : Option (List Char × List Char) :=
  match cs.span (· ≠ '=') with
  | (before, _ :: after) => some (before, after)
  | (_, []) => none

/-- A minus sign and a decimal number, with or without a fraction. A line break may follow. -/
def isNegativeNumber (cs : List Char) : Bool :=
  let isNumber (cs : List Char) : Bool :=
    match cs.span Text.isDecimalDigit with
    | ([], []) => false
    | (_, []) => true
    | (_, '.' :: fraction) => fraction ≠ [] && fraction.all Text.isDecimalDigit
    | (_, _ :: _) => false
  match cs with
  | '-' :: rest => isNumber rest || (rest.getLast? = some '\n' && isNumber rest.dropLast)
  | _ => false

def exactOption? (cs : List Char) : Option CommandOption :=
  spellings.lookup (String.ofList cs)

def assignedOption? (cs : List Char) : Option Item := do
  let (start, value) ← splitEquals? cs
  let option ← exactOption? start
  return .option option (some (.equals (String.ofList value)))

/-- The options that an argument with two dashes shortens, with their spellings. -/
def longCandidates (cs : List Char) : List (String × Item) :=
  let (start, attached) := match splitEquals? cs with
    | some (start, value) => (start, some (Attached.equals (String.ofList value)))
    | none => (cs, none)
  (spellings.filter fun entry => start.isPrefixOf entry.1.toList).map fun entry =>
    (entry.1, .option entry.2 attached)

/-- The options of one letter that an argument with one dash starts with, with their spellings. -/
def shortCandidates (cs : List Char) : List (String × Item) :=
  (spellings.filter fun entry => entry.1.toList = cs.take 2).map fun entry =>
    (entry.1, .option entry.2 (some (.letters (String.ofList (cs.drop 2)))))

/-- What an argument is that starts with a dash and spells no option in full. -/
def classifyShortened (argument : String) (cs : List Char) : Except UsageError Item :=
  match if cs.tail.head? = some '-' then longCandidates cs else shortCandidates cs with
  | [(_, item)] => .ok item
  | [] =>
    if isNegativeNumber cs || cs.contains ' ' then .ok (.plain argument)
    else .ok (.unknownOption argument)
  | candidates => .error (.ambiguous argument (candidates.map Prod.fst))

def classify (argument : String) : Except UsageError Item :=
  let cs := argument.toList
  if cs.head? ≠ some '-' then .ok (.plain argument)
  else match exactOption? cs with
    | some option => .ok (.option option none)
    | none =>
      if cs.tail.isEmpty then .ok (.plain argument)
      else match assignedOption? cs with
        | some item => .ok item
        | none => classifyShortened argument cs

def classifyAll : List String → Except UsageError (List Item)
  | [] => .ok []
  | argument :: rest =>
    if argument = "--" then .ok (.separator :: rest.map .plain)
    else do
      let item ← classify argument
      return item :: (← classifyAll rest)

/-! ## Consuming arguments -/

/-- What has been consumed so far: the expressions, if they have come, the values of the options and
the arguments that nothing could be made of. -/
structure Progress where
  expressions : Option (List String)
  arguments : Arguments
  leftOver : List String

def Progress.start : Progress where
  expressions := none
  arguments := {
    expressions := [], roundUp := false, range := false, timezone := none, locales := [],
    adapter := none, logLevel := none }
  leftOver := []

def Item.text? : Item → Option String
  | .plain text => some text
  | .separator => some "--"
  | .option .. | .unknownOption _ => none

/-- A run of arguments that are no options. The first run with an expression in it gives the
expressions, without the first `--`. -/
def Progress.takeRun (progress : Progress) (run : List Item) : Progress :=
  let texts := run.filterMap Item.text?
  if progress.expressions.isNone ∧ run.any fun item => item ≠ .separator then
    { progress with expressions := some (texts.erase "--") }
  else { progress with leftOver := progress.leftOver ++ texts }

def Arguments.store (arguments : Arguments) (option : CommandOption) (value : String) : Arguments :=
  match option with
  | .help => arguments
  | .roundUp => { arguments with roundUp := true }
  | .range => { arguments with range := true }
  | .timezone => { arguments with timezone := some value }
  | .locale => { arguments with locales := arguments.locales ++ [value] }
  | .adapter => { arguments with adapter := some value }
  | .logLevel => { arguments with logLevel := some value }

def Progress.store (progress : Progress) (option : CommandOption) (value : String) : Progress :=
  { progress with arguments := progress.arguments.store option value }

/-- Refuses a value that is not one of the choices of an option. -/
def checkChoice (option : CommandOption) (value : String) : Except UsageError Unit :=
  match option.choices? with
  | some choices =>
    if choices.contains value then .ok () else .error (.invalidChoice option value choices)
  | none => .ok ()

/-- The letters after a flag of one letter are flags again, and a flag takes no value. The only such
flag asks for help, and an unknown letter after it does not matter any more. -/
def checkLetters (option : CommandOption) : List Char → Except UsageError Unit
  | 'h' :: '=' :: value => .error (.ignoredValue option (String.ofList value))
  | 'h' :: rest => checkLetters option rest
  | '-' :: rest => .error (.ignoredValue option (String.ofList ('-' :: rest)))
  | _ => .ok ()

def checkFlag (option : CommandOption) : Option Attached → Except UsageError Unit
  | none => .ok ()
  | some (.equals value) => .error (.ignoredValue option value)
  | some (.letters letters) => checkLetters option letters.toList

/-- What consuming comes to: a request for help, or what the arguments say. -/
inductive Request where
  | help
  | evaluate (arguments : Arguments)

/-- The progress after the run of arguments since the last option. -/
def Progress.endRun (progress : Progress) (run : List Item) : Progress :=
  if run.isEmpty then progress else progress.takeRun run

def Progress.finish (progress : Progress) : Except UsageError Request :=
  match progress.expressions with
  | none => .error .missingExpressions
  | some expressions =>
    if progress.leftOver.isEmpty then .ok (.evaluate { progress.arguments with expressions })
    else .error (.unrecognized progress.leftOver)

/-- Consumes the arguments from the left. `run` holds the arguments since the last option. -/
def consume (progress : Progress) (run : List Item) : List Item → Except UsageError Request
  | [] => (progress.endRun run).finish
  | .unknownOption text :: rest =>
    let progress := progress.endRun run
    consume { progress with leftOver := progress.leftOver ++ [text] } [] rest
  | .option option attached :: rest =>
    if option.isFlag then do
      checkFlag option attached
      if option = .help then return .help
      consume ((progress.endRun run).store option "") [] rest
    else
      match attached, rest with
      | some (.equals value), rest | some (.letters value), rest => do
        checkChoice option value
        consume ((progress.endRun run).store option value) [] rest
      | none, .plain value :: rest => do
        checkChoice option value
        consume ((progress.endRun run).store option value) [] rest
      | none, _ => .error (.missingValue option)
  | item :: rest => consume progress (run ++ [item]) rest
termination_by items => items.length

def Request.ofArguments (arguments : List String) : Except UsageError Request := do
  consume .start [] (← classifyAll arguments)

end CommandLine

end RelativeTime
