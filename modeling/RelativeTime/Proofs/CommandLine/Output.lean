import RelativeTime.Proofs.CommandLine.Endings

/-!
# What the command prints

Over moments the lines of the command are the ISO forms of what its parser returns. The results of the
expressions are values up to the first failure, and the lines are those values: printing needs no more of an
expression than that it comes before the failure.
-/

namespace RelativeTime

namespace CommandLine

namespace Workplace

theorem map_map_ok {ε α β : Type} (f : α → β) (values : List α) :
    (values.map Except.ok).map (fun result : Except ε α => result.map f) = (values.map f).map .ok := by
  rw [List.map_map, List.map_map]
  rfl

variable [ZoneDatabase] {work : Workplace} {direction : Direction} {texts : List String} {values : List Moment}
  {failure : Failure AdapterError} {later : List (Except (Failure AdapterError) Moment)}

/-- What the expressions denote over moments, each on its own. -/
def moments (work : Workplace) (direction : Direction) (texts : List String) :
    List (Except (Failure AdapterError) Moment) :=
  texts.map fun text =>
    (work.parser.parse (Moment.adapter work.now) text direction work.timezone).result

theorem map_evaluate (overMoments : work.kind = .moment) (direction : Direction) (texts : List String) :
    texts.map (work.evaluate direction) =
      (work.moments direction texts).map fun result => result.map Moment.isoText := by
  rw [moments, List.map_map]
  refine List.map_congr_left fun text _ => ?_
  rw [evaluate, overMoments]
  rfl

theorem evaluateAll_of_moments (overMoments : work.kind = .moment)
    (denoted : work.moments direction texts = values.map .ok) :
    work.evaluateAll direction texts = ⟨values.map Moment.isoText, [], .exit 0⟩ := by
  apply evaluateAll_of_values
  rw [map_evaluate overMoments direction texts, denoted, map_map_ok]

/-- The command prints the values before the first failure and ends with the failure. -/
theorem evaluateAll_of_moments_failure (located : work.Located) (overMoments : work.kind = .moment)
    (denoted : work.moments direction texts = values.map .ok ++ .error failure :: later) :
    work.evaluateAll direction texts =
      ⟨values.map Moment.isoText,
        rejection work.threshold failure (failure.message AdapterError.message), .exit invalidCode⟩ := by
  have results := map_evaluate overMoments direction texts
  rw [denoted, List.map_append, map_map_ok] at results
  rw [evaluateAll_of_failure results, rejected_eq (answered_of_results located results)]
  simp [Outcome.printingAll]

/-- The lines are the values before the first failure, and there is a message about the failure if there is
one. -/
theorem perform_moments (located : work.Located) (overMoments : work.kind = .moment) {arguments : Arguments}
    (single : arguments.range = false) :
    ∃ values : List Moment, (work.perform arguments).output = values.map Moment.isoText ∧
      ((work.moments (if arguments.roundUp then .up else .down) arguments.expressions = values.map .ok ∧
          (work.perform arguments).ending = .exit 0 ∧ (work.perform arguments).messages = []) ∨
        ∃ failure later,
          work.moments (if arguments.roundUp then .up else .down) arguments.expressions =
              values.map .ok ++ .error failure :: later ∧
            (work.perform arguments).ending = .exit invalidCode ∧
            (work.perform arguments).messages = ["nowish: " ++ failure.message AdapterError.message]) := by
  rw [perform_expressions single]
  generalize (if arguments.roundUp then Direction.up else .down) = direction
  obtain ⟨values, succeeds⟩ | ⟨values, failure, later, fails⟩ :=
    results_cases (work.moments direction arguments.expressions)
  · rw [evaluateAll_of_moments overMoments succeeds]
    exact ⟨values, rfl, .inl ⟨succeeds, rfl, rfl⟩⟩
  · rw [evaluateAll_of_moments_failure located overMoments fails, messages_rejection]
    exact ⟨values, rfl, .inr ⟨failure, later, fails, rfl, rfl⟩⟩

theorem evaluateRange_eq (overMoments : work.kind = .moment) (start stop : String) :
    work.evaluateRange start stop =
      (work.parser.parseRange (Moment.adapter work.now) start stop work.timezone).result.map
        (bounds Moment.isoText) := by
  rw [evaluateRange, overMoments]

/-- There is a line for a range exactly if there are two expressions and the parser accepts them. -/
theorem perform_bounds (located : work.Located) (overMoments : work.kind = .moment) {arguments : Arguments}
    (range : arguments.range = true) :
    (∃ start stop first last, arguments.expressions = [start, stop] ∧
      (work.parser.parseRange (Moment.adapter work.now) start stop work.timezone).result = .ok (first, last) ∧
      (work.perform arguments).output = [first.isoText ++ "/" ++ last.isoText] ∧
      (work.perform arguments).ending = .exit 0) ∨
    ((∀ start stop first last, arguments.expressions = [start, stop] →
      (work.parser.parseRange (Moment.adapter work.now) start stop work.timezone).result ≠ .ok (first, last)) ∧
      (work.perform arguments).output = [] ∧ (work.perform arguments).ending = .exit invalidCode) := by
  obtain ⟨start, stop, line, two, ranged, performed⟩ |
      ⟨start, stop, failure, two, refused, performed⟩ | ⟨notTwo, silent, ended⟩ := perform_range work range
  · rw [evaluateRange_eq overMoments] at ranged
    obtain ⟨⟨first, last⟩, accepted, rfl⟩ := exists_of_map_eq_ok ranged
    rw [performed]
    exact .inl ⟨start, stop, first, last, two, accepted, rfl, rfl⟩
  · rw [performed, rejected_eq (answered_of_evaluateRange located refused)]
    refine .inr ⟨fun start' stop' first last two' => ?_, rfl, rfl⟩
    obtain ⟨rfl, rfl⟩ : start = start' ∧ stop = stop' := by simpa using two.symm.trans two'
    rw [evaluateRange_eq overMoments] at refused
    rw [eq_of_map_eq_error refused]
    exact nofun
  · exact .inr ⟨fun start stop _ _ two => absurd two (notTwo start stop), silent, ended⟩

end Workplace

/-- What the expressions of arguments denote over moments. -/
def denoted [ZoneDatabase] (parser : Parser TimeUnit ZoneRef) (arguments : Arguments) (now : Instant) :
    List (Except (Failure AdapterError) Moment) :=
  arguments.expressions.map fun text =>
    (parser.parse (Moment.adapter now) text (if arguments.roundUp then .up else .down)
      (arguments.timezone.map ZoneRef.named)).result

/-- Over moments, with valid settings, a known zone and a known threshold, the command prints a line for each
expression up to the first without a value, the ISO form of what the parser returns for it, and ends with 0 if
there is no such expression. Otherwise it ends with 2, and the one message is about that expression. Of a range
it prints the one line exactly if there are two expressions and the range is accepted, and else nothing. -/
theorem prints_values_up_to_failure [ZoneDatabase] {words : List String} {arguments : Arguments}
    {settings : Settings} {weight : Nat} (surroundings : Surroundings)
    (asked : Request.ofArguments words = .ok (.evaluate arguments))
    (loaded : Settings.load surroundings.environment surroundings.dotenv = .ok settings)
    (level : threshold (wantedLevel arguments surroundings) = .ok weight)
    (zoned : checkTimezone arguments = .ok ())
    (overMoments : (overridden settings arguments).adapter = .moment) :
    ∃ parser, (overridden settings arguments).parser = .ok parser ∧
      (arguments.range = false → ∃ values : List Moment,
        (run words surroundings).output = values.map Moment.isoText ∧
        ((denoted parser arguments surroundings.now = values.map .ok ∧
            (run words surroundings).ending = .exit 0 ∧ (run words surroundings).messages = []) ∨
          ∃ failure later,
            denoted parser arguments surroundings.now = values.map .ok ++ .error failure :: later ∧
              (run words surroundings).ending = .exit 2 ∧
              (run words surroundings).messages = ["nowish: " ++ failure.message AdapterError.message])) ∧
      (arguments.range = true →
        (∃ start stop first last, arguments.expressions = [start, stop] ∧
          (parser.parseRange (Moment.adapter surroundings.now) start stop
            (arguments.timezone.map ZoneRef.named)).result = .ok (first, last) ∧
          (run words surroundings).output = [first.isoText ++ "/" ++ last.isoText] ∧
          (run words surroundings).ending = .exit 0) ∨
        ((∀ start stop first last, arguments.expressions = [start, stop] →
          (parser.parseRange (Moment.adapter surroundings.now) start stop
            (arguments.timezone.map ZoneRef.named)).result ≠ .ok (first, last)) ∧
          (run words surroundings).output = [] ∧ (run words surroundings).ending = .exit 2)) := by
  obtain ⟨parser, created, located, evaluated⟩ := evaluateWith_eq (Settings.valid_of_load loaded)
    (checked_of_request asked) zoned weight surroundings.now
  have outcome : run words surroundings = evaluateWith weight settings arguments surroundings.now := by
    rw [run, asked]
    exact evaluate_of_settings loaded level
  rw [outcome, evaluated, Outcome.output_reporting, Outcome.ending_reporting, messages_logged]
  exact ⟨parser, created, Workplace.perform_moments (located fun _ => overMoments) overMoments,
    Workplace.perform_bounds (located fun _ => overMoments) overMoments⟩

/-- The settings with nothing in the environment. -/
def unset : Settings :=
  ⟨"UTC", "", .moment, "INFO"⟩

/-- `later` is no word for the current time, so the command prints the time and then ends with a message. -/
theorem prints_time_before_unknown_word :
    Request.ofArguments ["now", "later"] = .ok (.evaluate (.ofExpressions ["now", "later"])) ∧
      Settings.load [] none = .ok unset ∧
      (run ["now", "later"] ⟨[], none, springNoon⟩).output = ["2024-03-15T12:00:00+00:00"] ∧
      (run ["now", "later"] ⟨[], none, springNoon⟩).ending = .exit 2 ∧
      (run ["now", "later"] ⟨[], none, springNoon⟩).messages =
        ["nowish: invalid now-keyword: 'later'"] := by
  have asked : Request.ofArguments ["now", "later"] =
      .ok (.evaluate (.ofExpressions ["now", "later"])) := by cbv
  have loaded : Settings.load [] none = .ok unset := by cbv
  have configured : (overridden unset (.ofExpressions ["now", "later"])).parser =
      .ok ⟨.default (.named "UTC")⟩ := Settings.parser_of_withLocales rfl
  have results : denoted ⟨.default (.named "UTC")⟩ (.ofExpressions ["now", "later"]) springNoon =
      [.ok (.ofInstant .utc (epoch1970 * Moment.perSecond + 1710504000000000)),
        .error (.parse (.unknownName .nowKeyword "later"))] := rfl
  have level : threshold (wantedLevel (.ofExpressions ["now", "later"]) ⟨[], none, springNoon⟩) = .ok 20 := by
    cbv
  obtain ⟨parser, created, expressions, -⟩ :=
    prints_values_up_to_failure ⟨[], none, springNoon⟩ asked loaded level rfl rfl
  obtain rfl := Except.ok.inj (created.symm.trans configured)
  rw [results] at expressions
  obtain ⟨values, printed, ⟨succeeded, -, -⟩ | ⟨failure, later, failed, ended, message⟩⟩ := expressions rfl
  · -- the second result is not a value
    simp [List.map_eq_cons_iff, eq_comm] at succeeded
  · cases values with
    | nil => cases failed
    | cons value others =>
      cases others with
      | nil =>
        cases failed
        exact ⟨asked, loaded, printed, ended, message⟩
      | cons => cases failed

end CommandLine

end RelativeTime
