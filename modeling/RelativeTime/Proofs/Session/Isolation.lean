import RelativeTime.Proofs.Config.Extension
import RelativeTime.Session
import RelativeTime.TimeAdapter

/-!
# Sessions are isolated

Whatever a session is asked for, its configuration is a copy, since every parser is made of one
(`Session.HasCopy`). On a copy a request does what it would do to a configuration on its own: only a
reconfiguration that succeeds has an effect (`Session.perform_cases`), and that effect does not depend on
what was handed over. So changes of what was handed over can be left out of a session, and what holds of
one reconfiguration, that names keep their units and that there always are some, holds of all sessions.
-/

namespace RelativeTime

variable {υ τ ζ ε : Type}

/-- The request is to change what was handed over. -/
def Request.isMutation : Request υ τ ζ ε → Bool
  | .mutate _ => true
  | _ => false

/-- The answer is an error. -/
def Reply.IsFailure : Reply υ τ ε → Prop
  | .description _ _ => False
  | .time run => ∃ failure, run.result = .error failure
  | .range run => ∃ failure, run.result = .error failure
  | .refusal _ => True

/-! ## Reconfiguring -/

section

variable [DecidableEq υ]

/-- What a change makes of a configuration that refers to nothing. -/
def Config.reconfigured (config : Config υ ζ) : Reconfiguration ζ → Except ConfigError (Config υ ζ)
  | .timezone timezone => .ok { config with timezone }
  | .keywords keywords => .ok { config with keywords }
  | .locales codes => config.withLocales codes
  | .aliases aliases => do return { config with units := ← config.units.extend aliases }

theorem Config.extends_of_reconfigured {change : Reconfiguration ζ} {config config' : Config υ ζ}
    (changed : config.reconfigured change = .ok config') : config'.units.Extends config.units := by
  cases change with
  | timezone timezone =>
    obtain rfl := Except.ok.inj changed
    exact .refl config.units
  | keywords keywords =>
    obtain rfl := Except.ok.inj changed
    exact .refl config.units
  | locales codes => exact (extends_of_withLocales changed).1.units
  | aliases aliases =>
    obtain ⟨units, extended, returned⟩ := bind_eq_ok_iff.mp changed
    obtain rfl := Except.ok.inj returned
    exact (UnitTable.extends_of_extend extended).1

end

namespace Session

section

variable {session session' next : Session υ ζ} {config config' : Config υ ζ}

/-! ## Copies -/

/-- The session has a copy of the configuration, and there is a parser for it. -/
structure HasCopy (session : Session υ ζ) (config : Config υ ζ) : Prop where
  config_eq : session.config = .copy config
  created : Parser.create config = .ok ⟨config⟩

theorem HasCopy.parser_eq (copied : session.HasCopy config) : session.parser = ⟨config⟩ := by
  rw [parser, copied.config_eq]
  rfl

/-- The session with a copy of the configuration of a parser. -/
def withCopyOf (session : Session υ ζ) (parser : Parser υ ζ) : Session υ ζ :=
  { session with config := .copy parser.config }

theorem hasCopy_withCopyOf {parser : Parser υ ζ} (created : Parser.create config = .ok parser) :
    (session.withCopyOf parser).HasCopy config := by
  obtain ⟨-, -, rfl⟩ := Parser.create_eq_ok_iff.mp created
  exact ⟨rfl, created⟩

theorem hasCopy_of_start (started : start config = .ok session) : session.HasCopy config := by
  obtain ⟨parser, created, returned⟩ := bind_eq_ok_iff.mp started
  obtain rfl := Except.ok.inj returned
  exact hasCopy_withCopyOf created

theorem HasCopy.write_eq (copied : session.HasCopy config) (name : String) (unit : υ) :
    session.write name unit = .error .readOnly := by
  rw [write, copied.config_eq]
  rfl

theorem config_mutate {mutation : Mutation υ} (mutated : session.mutate mutation = .ok next) :
    next.config = session.config := by
  cases mutation with
  | erase name =>
    rw [mutate] at mutated
    split at mutated
    · obtain rfl := Except.ok.inj mutated
      rfl
    · contradiction
  | bind name unit =>
    obtain rfl := Except.ok.inj mutated
    rfl
  | addKeyword keyword =>
    obtain rfl := Except.ok.inj mutated
    rfl
  | removeKeyword keyword =>
    rw [mutate] at mutated
    split at mutated
    · obtain rfl := Except.ok.inj mutated
      rfl
    · contradiction
  | setKeywords keywords =>
    obtain rfl := Except.ok.inj mutated
    rfl

/-- What was handed over is no part of the configuration. -/
theorem config_mutateAll (session : Session υ ζ) (mutations : List (Mutation υ)) :
    (session.mutateAll mutations).1.config = session.config := by
  induction mutations generalizing session with
  | nil => rfl
  | cons mutation rest inductionHypothesis =>
    rw [mutateAll]
    split
    · next mutated => rw [inductionHypothesis, config_mutate mutated]
    · rfl

variable [DecidableEq υ]

/-- On a copy a change does what it does to a configuration on its own. -/
theorem HasCopy.reconfigured_eq (copied : session.HasCopy config) (change : Reconfiguration ζ) :
    session.reconfigured change = config.reconfigured change >>= fun config' => .ok (.copy config') := by
  have current : session.parser.config = config := by rw [copied.parser_eq]
  cases change with
  | timezone timezone =>
    rw [reconfigured, copied.config_eq]
    rfl
  | keywords keywords =>
    rw [reconfigured, copied.config_eq]
    rfl
  | locales codes =>
    rw [reconfigured, current, copied.config_eq, Config.reconfigured]
    cases localised : config.withLocales codes with
    | error error => rfl
    | ok config' =>
      -- the time zone is that of the old configuration, and so is the table if there are no locales
      have timezone := (Config.extends_of_withLocales localised).1.timezone
      cases codes with
      | nil =>
        obtain rfl := Except.ok.inj localised
        rfl
      | cons code codes =>
        obtain ⟨units', timezone', keywords'⟩ := config'
        obtain rfl : timezone' = config.timezone := timezone
        rfl
  | aliases aliases =>
    rw [reconfigured, current, copied.config_eq, Config.reconfigured]
    cases config.units.extend aliases <;> rfl

theorem HasCopy.reconfigure_eq (copied : session.HasCopy config) (change : Reconfiguration ζ) :
    session.reconfigure change =
      (config.reconfigured change >>= Parser.create) >>= fun parser =>
        .ok (session.withCopyOf parser) := by
  rw [reconfigure, copied.reconfigured_eq]
  cases config.reconfigured change <;> rfl

theorem HasCopy.reconfigure_cases (copied : session.HasCopy config) (change : Reconfiguration ζ) :
    (∃ error, session.reconfigure change = .error error) ∨
      ∃ config' next, config.reconfigured change = .ok config' ∧
        session.reconfigure change = .ok next ∧ next.HasCopy config' := by
  cases outcome : session.reconfigure change with
  | error error => exact .inl ⟨error, rfl⟩
  | ok next =>
    rw [copied.reconfigure_eq] at outcome
    obtain ⟨parser, rebuilt, returned⟩ := bind_eq_ok_iff.mp outcome
    obtain ⟨config', changed, created⟩ := bind_eq_ok_iff.mp rebuilt
    obtain rfl := Except.ok.inj returned
    exact .inr ⟨config', _, changed, rfl, hasCopy_withCopyOf created⟩

/-! ## One request -/

variable [Text.Alphabet]

/-- Only a reconfiguration that succeeds has an effect on the configuration. -/
theorem HasCopy.perform_cases (copied : session.HasCopy config) (request : Request υ τ ζ ε) :
    (session.perform request).1.HasCopy config ∨
      ∃ change config', request = .reconfigure change ∧ config.reconfigured change = .ok config' ∧
        (session.perform request).1.HasCopy config' ∧
          ¬ (session.perform request).2.IsFailure := by
  cases request with
  | reconfigure change =>
    rw [perform]
    rcases copied.reconfigure_cases change with
      ⟨error, failed⟩ | ⟨config', next, changed, succeeded, nextCopied⟩
    · rw [failed]
      exact .inl copied
    · rw [succeeded]
      exact .inr ⟨change, config', rfl, changed, nextCopied, id⟩
  | mutate mutations =>
    -- even changes that are stopped by an error have been made up to there
    have kept : (session.mutateAll mutations).1.HasCopy config :=
      ⟨(config_mutateAll session mutations).trans copied.config_eq, copied.created⟩
    rw [perform]
    split
    · next same =>
      rw [same] at kept
      exact .inl kept
    · next same =>
      rw [same] at kept
      exact .inl kept
  | write name unit =>
    rw [perform, copied.write_eq]
    exact .inl copied
  | parse | parseRange | describe => exact .inl copied

/-- A session keeps having a copy of a configuration, in which no name is lost or bound anew. -/
theorem HasCopy.perform (copied : session.HasCopy config) (request : Request υ τ ζ ε) :
    ∃ config', (session.perform request).1.HasCopy config' ∧ config'.units.Extends config.units := by
  rcases copied.perform_cases request with kept | ⟨change, config', -, changed, next, -⟩
  · exact ⟨config, kept, .refl config.units⟩
  · exact ⟨config', next, Config.extends_of_reconfigured changed⟩

theorem HasCopy.parser_of_isFailure (copied : session.HasCopy config) {request : Request υ τ ζ ε}
    (failed : (session.perform request).2.IsFailure) :
    (session.perform request).1.parser = session.parser := by
  rcases copied.perform_cases request with kept | ⟨_, _, -, -, -, succeeded⟩
  · rw [kept.parser_eq, copied.parser_eq]
  · exact absurd failed succeeded

/-- Sessions with copies of one configuration answer alike, whatever was handed over. -/
theorem HasCopy.perform_eq (copied : session.HasCopy config) (copied' : session'.HasCopy config)
    {request : Request υ τ ζ ε} (notMutation : request.isMutation = false) :
    (session.perform request).2 = (session'.perform request).2 ∧
      (session.perform request).1.config = (session'.perform request).1.config := by
  have sameParser : session.parser = session'.parser := copied.parser_eq.trans copied'.parser_eq.symm
  have sameConfig : session.config = session'.config := copied.config_eq.trans copied'.config_eq.symm
  cases request with
  | reconfigure change =>
    rw [Session.perform, Session.perform, copied.reconfigure_eq, copied'.reconfigure_eq]
    -- what comes of the change depends on the configuration alone
    cases config.reconfigured change >>= Parser.create with
    | error error => exact ⟨rfl, sameConfig⟩
    | ok parser => exact ⟨rfl, rfl⟩
  | mutate mutations => contradiction
  | write name unit =>
    rw [Session.perform, Session.perform, copied.write_eq, copied'.write_eq]
    exact ⟨rfl, sameConfig⟩
  | parse adapter text direction timezone =>
    rw [Session.perform, Session.perform, sameParser]
    exact ⟨rfl, sameConfig⟩
  | parseRange adapter start stop timezone =>
    rw [Session.perform, Session.perform, sameParser]
    exact ⟨rfl, sameConfig⟩
  | describe =>
    rw [Session.perform, Session.perform, description, description, sameParser]
    exact ⟨rfl, sameConfig⟩

/-! ## All requests -/

theorem after_append (session : Session υ ζ) (requests more : List (Request υ τ ζ ε)) :
    session.after (requests ++ more) = (session.after requests).after more :=
  List.foldl_append

theorem HasCopy.after (copied : session.HasCopy config) (requests : List (Request υ τ ζ ε)) :
    ∃ config', (session.after requests).HasCopy config' ∧ config'.units.Extends config.units := by
  induction requests generalizing session config with
  | nil => exact ⟨config, copied, .refl config.units⟩
  | cons request rest inductionHypothesis =>
    obtain ⟨config', next, larger⟩ := copied.perform request
    obtain ⟨config'', last, larger'⟩ := inductionHypothesis next
    exact ⟨config'', last, larger'.trans larger⟩

theorem HasCopy.transcript_filter (copied : session.HasCopy config)
    (copied' : session'.HasCopy config) (requests : List (Request υ τ ζ ε)) :
    (session.transcript requests).filter (!·.1.isMutation) =
      session'.transcript (requests.filter (!·.isMutation)) := by
  -- the first session has been asked for the changes and the second has not, so what was handed over
  -- is another thing in each, but both have copies of one configuration all along
  induction requests generalizing session session' config with
  | nil => rfl
  | cons request rest inductionHypothesis =>
    obtain ⟨config', next, -⟩ := copied.perform request
    cases isMutation : request.isMutation with
    | true =>
      have kept : (session.perform request).1.HasCopy config := by
        rcases copied.perform_cases request with kept | ⟨change, _, rfl, -⟩
        · exact kept
        · contradiction
      rw [transcript, List.filter_cons_of_neg (by simpa using isMutation),
        List.filter_cons_of_neg (by simpa using isMutation)]
      exact inductionHypothesis kept copied'
    | false =>
      obtain ⟨sameReply, sameConfig⟩ := copied.perform_eq copied' isMutation
      rw [transcript, List.filter_cons_of_pos (by simpa using isMutation),
        List.filter_cons_of_pos (by simpa using isMutation), transcript, sameReply]
      congr 1
      exact inductionHypothesis next ⟨sameConfig.symm.trans next.config_eq, next.created⟩

/-- Of a session that starts with a parser every later parser has a keyword and a unit, a name that has a
unit keeps it for good, requests that fail leave the parser, and nothing is written into the table of a
parser. Its answers do not depend on what becomes of the table and the keywords that were handed over:
without those changes all other answers are the same. -/
theorem requests_are_isolated (started : start config = .ok session)
    (requests : List (Request υ τ ζ ε)) :
    (session.after requests).parser.config.keywords ≠ [] ∧
      (session.after requests).parser.config.units.isEmpty = false ∧
      (∀ (more : List (Request υ τ ζ ε)) (name : String) (unit : υ),
        (session.after requests).parser.config.units.find? name = some unit →
          (session.after (requests ++ more)).parser.config.units.find? name = some unit) ∧
      (∀ request : Request υ τ ζ ε, ((session.after requests).perform request).2.IsFailure →
        ((session.after requests).perform request).1.parser = (session.after requests).parser) ∧
      (∀ (name : String) (unit : υ), (session.after requests).write name unit = .error .readOnly) ∧
      (session.transcript requests).filter (!·.1.isMutation) =
        session.transcript (requests.filter (!·.isMutation)) := by
  have copied := hasCopy_of_start started
  obtain ⟨config', present, -⟩ := copied.after requests
  obtain ⟨keywords, units, -⟩ := Parser.create_eq_ok_iff.mp present.created
  rw [present.parser_eq]
  refine ⟨keywords, units, fun more name unit found => ?_, fun request failed => ?_,
    present.write_eq, copied.transcript_filter copied requests⟩
  · obtain ⟨config'', last, larger⟩ := present.after more
    rw [after_append, last.parser_eq]
    exact larger name unit found
  · rw [present.parser_of_isFailure failed, present.parser_eq]

end

/-- German is added, the code for days is erased from the table that was handed over, and a request for no
keywords is refused. -/
def germanRequests : List (Request TimeUnit Moment ZoneRef AdapterError) :=
  [.reconfigure (.locales ["de"]), .mutate [.erase "d"], .reconfigure (.keywords [])]

/-- After the German requests the German word for days has its unit, and it still has it after another
alias, with the code for days. A configuration that refers to the table would be without that code. -/
theorem german_names_are_kept :
    ∃ session : Session TimeUnit ZoneRef, start (.default (.given .utc)) = .ok session ∧
      (session.after germanRequests).parser.config.units.find? "Tage" = some (.calendar .day) ∧
      (session.after (germanRequests ++ [.reconfigure (.aliases [("t", "d")])])).parser.config.units.find?
        "Tage" = some (.calendar .day) ∧
      (session.after (germanRequests ++ [.reconfigure (.aliases [("t", "d")])])).parser.config.units.find?
        "t" = some (.calendar .day) ∧
      (session.transcript germanRequests).filter (!·.1.isMutation) =
        session.transcript [.reconfigure (.locales ["de"]), .reconfigure (.keywords [])] ∧
      ((⟨⟨.handed, .given .utc, .handed⟩, .timeUnits, ["now"]⟩ : Session TimeUnit ZoneRef).after
        [(.mutate [.erase "d"] : Request TimeUnit Moment ZoneRef AdapterError)]).parser.config.units.find?
          "d" = none := by
  have started : start (.default (.given .utc)) =
      .ok ⟨.copy (.default (.given .utc)), .timeUnits, ["now"]⟩ := rfl
  obtain ⟨-, -, kept, -, -, filtered⟩ := requests_are_isolated started germanRequests
  have german : ((⟨.copy (.default (.given .utc)), .timeUnits, ["now"]⟩ : Session TimeUnit ZoneRef).after
      germanRequests).parser.config.units.find? "Tage" = some (.calendar .day) := rfl
  exact ⟨_, started, german, kept _ "Tage" _ german, rfl, filtered, rfl⟩

end Session

end RelativeTime
