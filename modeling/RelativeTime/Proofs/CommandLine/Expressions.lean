import RelativeTime.CommandLine.Evaluate
import RelativeTime.Proofs.Parser.ZoneErrors

/-!
# Evaluating the expressions of a command

The results of a list of expressions are values up to the first failure, if there is one
(`results_cases`). The command prints those values and ends with the failure, and never looks at the
expressions after it. Every failure is answered with the code for what is invalid, apart from an error about
the time zone of the evaluation that is none about the form of a key.
-/

namespace RelativeTime

namespace CommandLine

/-! ## Outcomes -/

namespace Outcome

/-- The outcome with lines printed in front. -/
def printingAll (lines : List String) (outcome : Outcome) : Outcome :=
  { outcome with output := lines ++ outcome.output }

@[simp] theorem ending_reporting (reports : List Report) (outcome : Outcome) :
    (outcome.reporting reports).ending = outcome.ending := rfl

@[simp] theorem output_reporting (reports : List Report) (outcome : Outcome) :
    (outcome.reporting reports).output = outcome.output := rfl

/-- Nothing is printed, and the code is that for what is invalid. -/
def Refused (outcome : Outcome) : Prop :=
  outcome.output = [] ∧ outcome.ending = .exit invalidCode

/-- The same is printed, and the end is the same. -/
def Agrees (outcome outcome' : Outcome) : Prop :=
  outcome.output = outcome'.output ∧ outcome.ending = outcome'.ending

theorem Refused.agrees {outcome outcome' : Outcome} (refused : outcome.Refused)
    (refused' : outcome'.Refused) : outcome.Agrees outcome' :=
  ⟨refused.1.trans refused'.1.symm, refused.2.trans refused'.2.symm⟩

end Outcome

theorem refused_failedWith (weight : Nat) (text : String) : (failedWith weight text).Refused :=
  ⟨rfl, rfl⟩

/-! ## Messages -/

def Report.message? : Report → Option String
  | .plain text => some text
  | .log _ => none

/-- The messages of the command on the error stream, without the entries of the log. -/
def Outcome.messages (outcome : Outcome) : List String :=
  outcome.reports.filterMap Report.message?

theorem filterMap_logged (threshold : Nat) (level : LogLevel) (source text : String) :
    (logged threshold level source text).filterMap Report.message? = [] := by
  rw [logged]
  split <;> rfl

@[simp] theorem messages_logged (threshold : Nat) (level : LogLevel) (source text : String)
    (outcome : Outcome) :
    (outcome.reporting (logged threshold level source text)).messages = outcome.messages := by
  simp [Outcome.messages, Outcome.reporting, filterMap_logged]

theorem messages_rejection (lines : List String) (ending : Ending) (threshold : Nat)
    (failure : Failure AdapterError) (message : String) :
    Outcome.messages ⟨lines, rejection threshold failure message, ending⟩ = ["nowish: " ++ message] := by
  rw [Outcome.messages, rejection.eq_def, List.filterMap_append, filterMap_logged]
  rfl

/-! ## The results of a list -/

/-- Results are values throughout, or values up to a failure. -/
theorem results_cases {ε α : Type} (results : List (Except ε α)) :
    (∃ values : List α, results = values.map .ok) ∨
      ∃ (values : List α) (failure : ε) (later : List (Except ε α)),
        results = values.map .ok ++ .error failure :: later := by
  induction results with
  | nil => exact .inl ⟨[], rfl⟩
  | cons result rest inductionHypothesis =>
    cases result with
    | error failure => exact .inr ⟨[], failure, rest, rfl⟩
    | ok value =>
      cases inductionHypothesis with
      | inl succeeds =>
        obtain ⟨values, rfl⟩ := succeeds
        exact .inl ⟨value :: values, rfl⟩
      | inr fails =>
        obtain ⟨values, failure, later, rfl⟩ := fails
        exact .inr ⟨value :: values, failure, later, rfl⟩

namespace Workplace

/-! ## Rejections -/

section

variable {work : Workplace} {failure : Failure AdapterError} {error : ZoneKeyError}

theorem unansweredZone?_eq_some_iff : unansweredZone? failure = some error ↔
    failure = .adapter (.zone error) ∧ error.isInvalid = false := by
  rw [unansweredZone?.eq_def]
  split
  case h_1 other => grind
  case h_2 unzoned =>
    refine iff_of_false nofun ?_
    rintro ⟨rfl, -⟩
    exact unzoned error rfl

theorem rejected_eq (answered : unansweredZone? failure = none) : work.rejected failure =
    ⟨[], rejection work.threshold failure (failure.message AdapterError.message), .exit invalidCode⟩ := by
  rw [rejected, answered]
  simp [Outcome.reporting, Outcome.ended]

theorem rejected_silent (ofZone : ∀ other, failure = .adapter (.zone other) → other = error) :
    (work.rejected failure).output = [] ∧ ((work.rejected failure).ending = .exit invalidCode ∨
      (work.rejected failure).ending = .zone error ∧ error.isInvalid = false) := by
  cases unanswered : unansweredZone? failure with
  | none =>
    rw [rejected_eq unanswered]
    exact ⟨rfl, .inl rfl⟩
  | some other =>
    obtain ⟨same, valid⟩ := unansweredZone?_eq_some_iff.mp unanswered
    obtain rfl := ofZone other same
    rw [rejected, unanswered]
    exact ⟨rfl, .inr ⟨rfl, valid⟩⟩

theorem agrees_rejected (work work' : Workplace) (failure : Failure AdapterError) :
    (work.rejected failure).Agrees (work'.rejected failure) := by
  rw [rejected, rejected]
  cases unansweredZone? failure <;> exact ⟨rfl, rfl⟩

end

/-! ## Evaluating up to a failure -/

section

variable [ZoneDatabase] {work : Workplace} {direction : Direction} {texts lines : List String}
  {failure : Failure AdapterError} {later : List (Except (Failure AdapterError) String)}

theorem evaluateAll_of_values (values : texts.map (work.evaluate direction) = lines.map .ok) :
    work.evaluateAll direction texts = ⟨lines, [], .exit 0⟩ := by
  induction texts generalizing lines with
  | nil =>
    obtain rfl := List.map_eq_nil_iff.mp values.symm
    rfl
  | cons text rest inductionHypothesis =>
    obtain ⟨line, printed, rfl, first, others⟩ := List.map_eq_cons_iff.mp values.symm
    rw [evaluateAll, ← first, inductionHypothesis others.symm]
    rfl

/-- With a failure among the results, the lines before it are printed and it ends the command. -/
theorem evaluateAll_of_failure
    (results : texts.map (work.evaluate direction) = lines.map .ok ++ .error failure :: later) :
    work.evaluateAll direction texts = (work.rejected failure).printingAll lines := by
  -- on the lines and not on the expressions, of which there may be more after the failure
  induction lines generalizing texts with
  | nil =>
    obtain ⟨text, rest, rfl, failed, -⟩ := List.map_eq_cons_iff.mp results
    rw [evaluateAll, failed]
    rfl
  | cons line printed inductionHypothesis =>
    obtain ⟨text, rest, rfl, succeeded, others⟩ := List.map_eq_cons_iff.mp results
    rw [evaluateAll, succeeded]
    simp only
    rw [inductionHypothesis others]
    rfl

/-! ## The zone of the evaluation -/

/-- The zone of the evaluation, as its times look it up. -/
def zone (work : Workplace) : Except ZoneKeyError Zone :=
  match work.kind with
  | .moment => (work.parser.context work.timezone).timezone.zone
  | .stamp => (work.parser.context work.timezone).timezone.zoneForStamp

/-- There is a zone for the evaluation, or the error about it is answered. -/
def Located (work : Workplace) : Prop :=
  ∀ error, work.zone = .error error → error.isInvalid = true

theorem zone_of_evaluate {text : String} {error : ZoneKeyError}
    (failed : work.evaluate direction text = .error (.adapter (.zone error))) : work.zone = .error error := by
  cases kind : work.kind with
  | moment =>
    rw [evaluate, kind] at failed
    rw [zone, kind]
    exact Parser.zone_of_parse (Moment.adapter_looksUpZones work.now) (eq_of_map_eq_error failed)
  | stamp =>
    rw [evaluate, kind] at failed
    rw [zone, kind]
    exact Parser.zone_of_parse (Stamp.adapter_looksUpZones work.now) (eq_of_map_eq_error failed)

theorem zone_of_evaluateRange {start stop : String} {error : ZoneKeyError}
    (failed : work.evaluateRange start stop = .error (.adapter (.zone error))) :
    work.zone = .error error := by
  cases kind : work.kind with
  | moment =>
    rw [evaluateRange, kind] at failed
    rw [zone, kind]
    exact Parser.zone_of_parseRange (Moment.adapter_looksUpZones work.now) (eq_of_map_eq_error failed)
  | stamp =>
    rw [evaluateRange, kind] at failed
    rw [zone, kind]
    exact Parser.zone_of_parseRange (Stamp.adapter_looksUpZones work.now) (eq_of_map_eq_error failed)

/-- A failure whose errors about zones are those of the evaluation is answered where that is located. -/
theorem Located.answers (located : work.Located)
    (ofZone : ∀ error, failure = .adapter (.zone error) → work.zone = .error error) :
    unansweredZone? failure = none := by
  refine Option.eq_none_iff_forall_ne_some.mpr fun error unanswered => ?_
  obtain ⟨same, valid⟩ := unansweredZone?_eq_some_iff.mp unanswered
  exact Bool.false_ne_true (valid.symm.trans (located error (ofZone error same)))

theorem answered_of_evaluate (located : work.Located) {text : String}
    (failed : work.evaluate direction text = .error failure) : unansweredZone? failure = none :=
  located.answers fun _ same => zone_of_evaluate (same ▸ failed)

theorem answered_of_results (located : work.Located)
    (results : texts.map (work.evaluate direction) = lines.map .ok ++ .error failure :: later) :
    unansweredZone? failure = none := by
  have among : .error failure ∈ texts.map (work.evaluate direction) := by simp [results]
  obtain ⟨text, -, failed⟩ := List.mem_map.mp among
  exact answered_of_evaluate located failed

theorem answered_of_evaluateRange (located : work.Located) {start stop : String}
    (failed : work.evaluateRange start stop = .error failure) : unansweredZone? failure = none :=
  located.answers fun _ same => zone_of_evaluateRange (same ▸ failed)

/-- What becomes of a range: its line, or its rejection, or nothing if there are not two expressions. -/
theorem perform_range (work : Workplace) {arguments : Arguments} (range : arguments.range = true) :
    (∃ start stop line, arguments.expressions = [start, stop] ∧ work.evaluateRange start stop = .ok line ∧
      work.perform arguments = ⟨[line], [], .exit 0⟩) ∨
    (∃ start stop failure, arguments.expressions = [start, stop] ∧
      work.evaluateRange start stop = .error failure ∧ work.perform arguments = work.rejected failure) ∨
    (∀ start stop, arguments.expressions ≠ [start, stop]) ∧ (work.perform arguments).output = [] ∧
      (work.perform arguments).ending = .exit invalidCode := by
  rw [perform, if_pos range]
  split
  case h_1 start stop two =>
    cases result : work.evaluateRange start stop with
    | ok line => exact .inl ⟨start, stop, line, two, result, rfl⟩
    | error failure => exact .inr (.inl ⟨start, stop, failure, two, result, rfl⟩)
  case h_2 notTwo => exact .inr (.inr ⟨fun start stop two => notTwo start stop two, rfl, rfl⟩)

theorem perform_expressions {arguments : Arguments} (single : arguments.range = false) :
    work.perform arguments =
      work.evaluateAll (if arguments.roundUp then .up else .down) arguments.expressions := by
  rw [perform, single]
  rfl

/-- Whatever the expressions are, the command ends with a code. -/
theorem ending_perform (located : work.Located) (arguments : Arguments) :
    (work.perform arguments).ending = .exit 0 ∨ (work.perform arguments).ending = .exit invalidCode := by
  cases range : arguments.range with
  | true =>
    obtain ⟨_, _, _, -, -, performed⟩ | ⟨_, _, failure, -, failed, performed⟩ | ⟨-, -, ended⟩ :=
      perform_range work range
    · rw [performed]
      exact .inl rfl
    · rw [performed, rejected_eq (answered_of_evaluateRange located failed)]
      exact .inr rfl
    · exact .inr ended
  | false =>
    rw [perform_expressions range]
    generalize (if arguments.roundUp then Direction.up else .down) = direction
    obtain ⟨lines, values⟩ | ⟨lines, failure, later, results⟩ :=
      results_cases (arguments.expressions.map (work.evaluate direction))
    · rw [evaluateAll_of_values values]
      exact .inl rfl
    · rw [evaluateAll_of_failure results, rejected_eq (answered_of_results located results)]
      exact .inr rfl

/-! ## Without a zone -/

section

variable {error : ZoneKeyError} {arguments : Arguments} (unzoned : work.zone = .error error)
include unzoned

theorem evaluate_ne_ok (direction : Direction) (text line : String) :
    work.evaluate direction text ≠ .ok line := by
  intro evaluated
  rw [evaluate] at evaluated
  rw [zone] at unzoned
  split at evaluated
  case h_1 kind =>
    rw [kind] at unzoned
    obtain ⟨time, parsed, -⟩ := exists_of_map_eq_ok evaluated
    exact Parser.parse_ne_ok_of_zone_error (Moment.adapter_looksUpZones work.now) unzoned time parsed
  case h_2 kind =>
    rw [kind] at unzoned
    obtain ⟨time, parsed, -⟩ := exists_of_map_eq_ok evaluated
    exact Parser.parse_ne_ok_of_zone_error (Stamp.adapter_looksUpZones work.now) unzoned time parsed

theorem evaluateRange_ne_ok (start stop line : String) : work.evaluateRange start stop ≠ .ok line := by
  intro evaluated
  rw [evaluateRange] at evaluated
  rw [zone] at unzoned
  split at evaluated
  case h_1 kind =>
    rw [kind] at unzoned
    obtain ⟨⟨first, last⟩, parsed, -⟩ := exists_of_map_eq_ok evaluated
    exact Parser.parse_ne_ok_of_zone_error (Moment.adapter_looksUpZones work.now) unzoned first
      (Parser.parse_of_parseRange parsed).1
  case h_2 kind =>
    rw [kind] at unzoned
    obtain ⟨⟨first, last⟩, parsed, -⟩ := exists_of_map_eq_ok evaluated
    exact Parser.parse_ne_ok_of_zone_error (Stamp.adapter_looksUpZones work.now) unzoned first
      (Parser.parse_of_parseRange parsed).1

/-- Without a zone nothing is printed, since the first expression has no value. The end is that for what is
invalid, or the error about the zone where that is not answered. -/
theorem silent_perform (filled : arguments.expressions ≠ []) :
    (work.perform arguments).output = [] ∧ ((work.perform arguments).ending = .exit invalidCode ∨
      (work.perform arguments).ending = .zone error ∧ error.isInvalid = false) := by
  have same {other : ZoneKeyError} (zoneless : work.zone = .error other) : other = error :=
    Except.error.inj (zoneless.symm.trans unzoned)
  cases range : arguments.range with
  | true =>
    obtain ⟨start, stop, line, -, evaluated, -⟩ | ⟨start, stop, failure, -, failed, performed⟩ |
        ⟨-, silent, ended⟩ := perform_range work range
    · exact absurd evaluated (evaluateRange_ne_ok unzoned start stop line)
    · rw [performed]
      exact rejected_silent fun other about => same (zone_of_evaluateRange (about ▸ failed))
    · exact ⟨silent, .inl ended⟩
  | false =>
    rw [perform_expressions range]
    obtain ⟨text, rest, given⟩ := List.exists_cons_of_ne_nil filled
    rw [given, evaluateAll]
    cases evaluated : work.evaluate (if arguments.roundUp then .up else .down) text with
    | ok line => exact absurd evaluated (evaluate_ne_ok unzoned _ text line)
    | error failure => exact rejected_silent fun other about => same (zone_of_evaluate (about ▸ evaluated))

end

end

/-! ## Workplaces that evaluate alike -/

section

variable {work work' : Workplace}

/-- Workplaces differ at most in where their zone comes from and in what they log. -/
structure Alike (work work' : Workplace) : Prop where
  kind : work.kind = work'.kind
  now : work.now = work'.now
  keywords : work.parser.config.keywords = work'.parser.config.keywords
  units : work.parser.config.units = work'.parser.config.units
  context : work.parser.context work.timezone = work'.parser.context work'.timezone

theorem Alike.dialogue_eq {τ : Type} (alike : work.Alike work')
    (adapter : Adapter TimeUnit τ ZoneRef AdapterError) (text : String) (direction : Direction) :
    work.parser.dialogue adapter text direction work.timezone =
      work'.parser.dialogue adapter text direction work'.timezone := by
  simp only [Parser.dialogue, Parser.resolve, alike.keywords, alike.units, alike.context]

variable [ZoneDatabase]

theorem Alike.evaluate_eq (alike : work.Alike work') : work.evaluate = work'.evaluate := by
  funext direction text
  simp only [evaluate, Parser.parse, alike.kind, alike.now, alike.dialogue_eq]

theorem Alike.evaluateRange_eq (alike : work.Alike work') : work.evaluateRange = work'.evaluateRange := by
  funext start stop
  simp only [evaluateRange, Parser.parseRange, Parser.dialogueRange, alike.kind, alike.now, alike.dialogue_eq]

theorem Alike.agrees_evaluateAll (alike : work.Alike work') (direction : Direction) (texts : List String) :
    (work.evaluateAll direction texts).Agrees (work'.evaluateAll direction texts) := by
  induction texts with
  | nil => exact ⟨rfl, rfl⟩
  | cons text rest inductionHypothesis =>
    rw [evaluateAll, evaluateAll, alike.evaluate_eq]
    cases work'.evaluate direction text with
    | ok line =>
      exact ⟨congrArg (line :: ·) inductionHypothesis.1, inductionHypothesis.2⟩
    | error failure => exact agrees_rejected work work' failure

theorem Alike.agrees_perform (alike : work.Alike work') (arguments : Arguments) :
    (work.perform arguments).Agrees (work'.perform arguments) := by
  rw [perform, perform, alike.evaluateRange_eq]
  split
  · split
    · split
      · exact ⟨rfl, rfl⟩
      · exact agrees_rejected work work' _
    · exact ⟨rfl, rfl⟩
  · exact alike.agrees_evaluateAll _ _

end

end Workplace

end CommandLine

end RelativeTime
