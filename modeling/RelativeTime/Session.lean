import RelativeTime.Locale
import RelativeTime.Parser

/-!
# Sessions

A session keeps a parser and replaces it step by step by parsers with other names or another time zone.
A step that fails leaves the parser as it was.

The table and the keywords that the first parser is made from stay in the hands of whoever made them, who
can change them later. A configuration that refers to them would change along, so making a parser copies
both, and no change of what was handed over gets to a parser.
-/

namespace RelativeTime

/-- Something that a configuration refers to: what was handed over, as it is when it is looked at, or a
copy. -/
inductive Held (α : Type) where
  | handed
  | copied (value : α)

/-- The value, given what was handed over. -/
def Held.read {α : Type} (handed : α) : Held α → α
  | .handed => handed
  | .copied value => value

/-- A configuration whose table and keywords can be those that were handed over. -/
structure HeldConfig (υ ζ : Type) where
  units : Held (UnitTable υ)
  timezone : ζ
  keywords : Held (List String)

/-- The configuration with copies of its table and its keywords. -/
def HeldConfig.copy {υ ζ : Type} (config : Config υ ζ) : HeldConfig υ ζ where
  units := .copied config.units
  timezone := config.timezone
  keywords := .copied config.keywords

/-- The configuration of the current parser, and the table and the keywords that were handed over for the
first one, as they are now. -/
structure Session (υ ζ : Type) where
  config : HeldConfig υ ζ
  handedUnits : UnitTable υ
  handedKeywords : List String

/-- A change of the configuration. -/
inductive Reconfiguration (ζ : Type) where
  | timezone (timezone : ζ)
  | keywords (keywords : List String)
  | locales (codes : List String)
  | aliases (aliases : List (String × String))

/-- A change of the table or the keywords that were handed over. -/
inductive Mutation (υ : Type) where
  | erase (name : String)
  | bind (name : String) (unit : υ)
  | addKeyword (keyword : String)
  | removeKeyword (keyword : String)
  | setKeywords (keywords : List String)

/-- Why a step of a session failed. -/
inductive SessionError where
  | config (error : ConfigError)
  /-- A name to be erased that is not there. -/
  | unknownName (name : String)
  /-- A keyword to be removed that is not there. -/
  | unknownKeyword
  /-- The names of a copied table cannot be bound anew. -/
  | readOnly
  deriving DecidableEq

def SessionError.message : SessionError → String
  | .config error => error.message
  | .unknownName name => "unknown name: " ++ Text.quoted name
  | .unknownKeyword => "list.remove(x): x not in list"
  | .readOnly => "'mappingproxy' object does not support item assignment"

namespace Session

variable {υ τ ζ ε : Type}

/-! ## Parsers -/

/-- What a configuration says at present. -/
def read (session : Session υ ζ) (config : HeldConfig υ ζ) : Config υ ζ where
  units := config.units.read session.handedUnits
  timezone := config.timezone
  keywords := config.keywords.read session.handedKeywords

/-- The current parser. -/
def parser (session : Session υ ζ) : Parser υ ζ :=
  ⟨session.read session.config⟩

/-- The session with the parser of another configuration, which is copied once it has passed. -/
def rebuild (session : Session υ ζ) (config : HeldConfig υ ζ) : Except ConfigError (Session υ ζ) := do
  let parser ← Parser.create (session.read config)
  return { session with config := .copy parser.config }

/-- The session that starts with the parser of a configuration, whose table and keywords are handed
over. -/
def start (config : Config υ ζ) : Except ConfigError (Session υ ζ) :=
  let handed : HeldConfig υ ζ := { units := .handed, timezone := config.timezone, keywords := .handed }
  rebuild { config := handed, handedUnits := config.units, handedKeywords := config.keywords } handed

/-! ## Steps -/

/-- The configuration of the current parser with a change. What the change leaves alone is still referred
to. -/
def reconfigured [DecidableEq υ] (session : Session υ ζ) :
    Reconfiguration ζ → Except ConfigError (HeldConfig υ ζ)
  | .timezone timezone => .ok { session.config with timezone }
  | .keywords keywords => .ok { session.config with keywords := .copied keywords }
  | .locales codes => do
    let config ← session.parser.config.withLocales codes
    return { session.config with
      units := if codes.isEmpty then session.config.units else .copied config.units
      keywords := .copied config.keywords }
  | .aliases aliases => do
    return { session.config with units := .copied (← session.parser.config.units.extend aliases) }

def reconfigure [DecidableEq υ] (session : Session υ ζ) (change : Reconfiguration ζ) :
    Except ConfigError (Session υ ζ) := do
  session.rebuild (← session.reconfigured change)

/-- The attempt to bind a name in the table of the current parser, which a copy refuses. -/
def write (session : Session υ ζ) (name : String) (unit : υ) : Except SessionError (Session υ ζ) :=
  match session.config.units with
  | .handed => .ok { session with handedUnits := session.handedUnits.insert name unit }
  | .copied _ => .error .readOnly

def mutate (session : Session υ ζ) : Mutation υ → Except SessionError (Session υ ζ)
  | .erase name =>
    match session.handedUnits.find? name with
    | some _ => .ok { session with handedUnits := session.handedUnits.erase name }
    | none => .error (.unknownName name)
  | .bind name unit => .ok { session with handedUnits := session.handedUnits.insert name unit }
  | .addKeyword keyword =>
    .ok { session with handedKeywords := session.handedKeywords ++ [keyword] }
  | .removeKeyword keyword =>
    if keyword ∈ session.handedKeywords then
      .ok { session with handedKeywords := session.handedKeywords.erase keyword }
    else .error .unknownKeyword
  | .setKeywords keywords => .ok { session with handedKeywords := keywords }

/-- The session after several changes of what was handed over, and the error that stopped them. -/
def mutateAll (session : Session υ ζ) : List (Mutation υ) → Session υ ζ × Option SessionError
  | [] => (session, none)
  | mutation :: rest =>
    match session.mutate mutation with
    | .ok session => session.mutateAll rest
    | .error error => (session, some error)

end Session

/-! ## Requests -/

/-- What a session can be asked for. -/
inductive Request (υ τ ζ ε : Type) where
  | reconfigure (change : Reconfiguration ζ)
  | mutate (mutations : List (Mutation υ))
  | write (name : String) (unit : υ)
  | parse (adapter : Adapter υ τ ζ ε) (text direction : String) (timezone : Option ζ)
  | parseRange (adapter : Adapter υ τ ζ ε) (start stop : String) (timezone : Option ζ)
  | describe

/-- What a session answers. -/
inductive Reply (υ τ ε : Type) where
  | description (keywords : List String) (units : List (String × υ))
  | time (run : Run (Step υ τ) (Failure ε) τ)
  | range (run : Run (Step υ τ) (Failure ε) (τ × τ))
  | refusal (error : SessionError)

namespace Session

variable {υ τ ζ ε : Type}

/-- The keywords and the names of the current parser. -/
def description (session : Session υ ζ) : Reply υ τ ε :=
  .description session.parser.config.keywords session.parser.config.units.entries

/-- The session after a request that may be refused, and the answer. -/
def settle (session : Session υ ζ) : Except SessionError (Session υ ζ) → Session υ ζ × Reply υ τ ε
  | .ok next => (next, next.description)
  | .error error => (session, .refusal error)

variable [DecidableEq υ] [Text.Alphabet]

/-- The session after a request, and the answer. -/
def perform (session : Session υ ζ) : Request υ τ ζ ε → Session υ ζ × Reply υ τ ε
  | .reconfigure change => session.settle ((session.reconfigure change).mapError .config)
  | .mutate mutations =>
    match session.mutateAll mutations with
    | (next, none) => (next, next.description)
    | (next, some error) => (next, .refusal error)
  | .write name unit => session.settle (session.write name unit)
  | .parse adapter text direction timezone =>
    (session, .time (session.parser.parseNamed adapter text direction timezone))
  | .parseRange adapter start stop timezone =>
    (session, .range (session.parser.parseRange adapter start stop timezone))
  | .describe => (session, session.description)

/-- The session after requests, one after the other. -/
def after (session : Session υ ζ) (requests : List (Request υ τ ζ ε)) : Session υ ζ :=
  requests.foldl (fun session request => (session.perform request).1) session

/-- The requests, one after the other, with the answers to them. -/
def transcript (session : Session υ ζ) :
    List (Request υ τ ζ ε) → List (Request υ τ ζ ε × Reply υ τ ε)
  | [] => []
  | request :: rest =>
    (request, (session.perform request).2) :: (session.perform request).1.transcript rest

end Session

end RelativeTime
