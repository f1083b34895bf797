import RelativeTime.Dotenv
import RelativeTime.Locale
import RelativeTime.Parser
import RelativeTime.Text.Blank
import RelativeTime.TimeAdapter

/-!
# Settings

The settings say which time zone, locales and adapter to use and how much to log. They come from
named variables, of the environment first and of an environment file second, and are checked one by
one, so that every wrong value is reported. The locales are given as a list separated by commas with
any blanks around its elements, and are stored as such a list without them.
-/

namespace RelativeTime

/-- The settings that can be made. -/
inductive Setting where
  | timezone
  | locales
  | adapter
  | logLevel
  deriving DecidableEq

/-- All settings in the order in which they are checked. -/
def Setting.all : List Setting := [.timezone, .locales, .adapter, .logLevel]

def Setting.variableName : Setting → String
  | .timezone => "NOWISH_TIMEZONE"
  | .locales => "NOWISH_LOCALES"
  | .adapter => "NOWISH_ADAPTER"
  | .logLevel => "LOG_LEVEL"

/-- The value of a setting that is not made. -/
def Setting.fallback : Setting → String
  | .timezone => "UTC"
  | .locales => ""
  | .adapter => TimeKind.moment.name
  | .logLevel => "INFO"

/-- The settings after checking. `locales` is a list of codes separated by commas. -/
structure Settings where
  timezone : String
  locales : String
  adapter : TimeKind
  logLevel : String

namespace Settings

/-! ## Lists of locales -/

/-- The pieces of a list between its commas. -/
def pieces (text : String) : List (List Char) :=
  text.toList.splitOn ','

/-- The trimmed elements of a list, without the blank ones. -/
def elements (text : String) : List String :=
  (((pieces text).map Text.trim).filter (· ≠ [])).map String.ofList

/-- The elements that are no codes of locales, each once, in order. -/
def unsupported (codes : List String) : List String :=
  (codes.filter fun code => (Locale.ofCode? code).isNone).eraseDups.mergeSort

/-- The stored form of a list of codes. -/
def joined (codes : List String) : String :=
  ",".intercalate codes

def storedCodes (text : String) : List String :=
  ((pieces text).filter (· ≠ [])).map String.ofList

def localeCodes (settings : Settings) : List String :=
  storedCodes settings.locales

/-! ## Errors -/

/-- What is wrong with the value of a setting. -/
inductive Problem where
  | unknownTimezone
  | unsupportedLocales (codes : List String)
  | unknownAdapter
  deriving DecidableEq

def Problem.setting : Problem → Setting
  | .unknownTimezone => .timezone
  | .unsupportedLocales _ => .locales
  | .unknownAdapter => .adapter

/-- A problem with the value that was given. -/
structure SettingError where
  problem : Problem
  value : String
  deriving DecidableEq

def SettingError.variableName (error : SettingError) : String :=
  error.problem.setting.variableName

def Problem.code : Problem → String
  | .unknownTimezone => "value_error"
  | .unsupportedLocales _ => "value_error"
  | .unknownAdapter => "literal_error"

def SettingError.message (error : SettingError) : String :=
  match error.problem with
  | .unknownTimezone => "Value error, unknown timezone: " ++ Text.quoted error.value
  | .unsupportedLocales codes =>
    "Value error, unsupported locales: " ++ ", ".intercalate codes
  | .unknownAdapter =>
    "Input should be " ++ " or ".intercalate (TimeKind.all.map fun kind => Text.quoted kind.name)

/-- The line that stands above the errors. -/
def errorSummary (errors : List SettingError) : String :=
  "Invalid environment configuration: " ++ toString errors.length ++
    (if errors.length = 1 then " validation error" else " validation errors") ++ " for Settings"

/-- Why settings cannot be loaded: values are wrong, or the look-up of the zone ends half-way, whatever
the other values are. -/
inductive LoadError where
  | invalid (errors : List SettingError)
  | timezone (error : ZoneKeyError)
  deriving DecidableEq

/-! ## Checking -/

def checkTimezone [ZoneDatabase] (value : String) : Except SettingError String :=
  match Zone.named value with
  | .ok _ => .ok value
  | .error _ => .error ⟨.unknownTimezone, value⟩

def checkLocales (value : String) : Except SettingError String :=
  match unsupported (elements value) with
  | [] => .ok (joined (elements value))
  | codes => .error ⟨.unsupportedLocales codes, value⟩

def checkAdapter (value : String) : Except SettingError TimeKind :=
  match TimeKind.ofName? value with
  | some kind => .ok kind
  | none => .error ⟨.unknownAdapter, value⟩

def errorsOf {α : Type} : Except SettingError α → List SettingError
  | .ok _ => []
  | .error error => [error]

/-! ## Variables -/

/-- The value of the variable with the given name, in lower or upper case. Of several spellings the
last one counts, even if it has no value. -/
def valueOf? (assigned : List (String × Option String)) (name : String) : Option String :=
  (assigned.filter fun entry => entry.1.toLower = name.toLower).getLast?.bind Prod.snd

/-- The value of a setting: that of its variable in the environment, else in the environment file, else the
fallback. -/
def valueIn (environment : List (String × String)) (dotenv : Option String) (setting : Setting) : String :=
  let inherited := environment.map fun (name, value) => (name, some value)
  let fromFile := (dotenv.map (Dotenv.bindings environment)).getD []
  ((valueOf? inherited setting.variableName).or (valueOf? fromFile setting.variableName)).getD
    setting.fallback

/-- The settings that the variables of the environment and of an environment file give. -/
def load [ZoneDatabase] (environment : List (String × String)) (dotenv : Option String) :
    Except LoadError Settings :=
  match Zone.brokenLookup? (valueIn environment dotenv .timezone) with
  | some error => .error (.timezone error)
  | none =>
    let timezone := checkTimezone (valueIn environment dotenv .timezone)
    let locales := checkLocales (valueIn environment dotenv .locales)
    let adapter := checkAdapter (valueIn environment dotenv .adapter)
    match timezone, locales, adapter with
    | .ok timezone, .ok locales, .ok adapter =>
      .ok { timezone, locales, adapter, logLevel := valueIn environment dotenv .logLevel }
    | _, _, _ => .error (.invalid (errorsOf timezone ++ errorsOf locales ++ errorsOf adapter))

/-! ## The parser of the settings -/

def parser (settings : Settings) : Except ConfigError (Parser TimeUnit ZoneRef) := do
  let config ← (Config.default (.named settings.timezone)).withLocales settings.localeCodes
  Parser.create config

end Settings

end RelativeTime
