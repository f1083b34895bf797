import Mathlib
import RelativeTime.Proofs.CommandLine.Arguments
import RelativeTime.Proofs.CommandLine.Expressions
import RelativeTime.Proofs.Settings.Valid
import RelativeTime.Zone.Recent

/-!
# How the command ends

Arguments that have been checked leave valid settings valid, so there is a parser, and the time zone of the
evaluation is either known or a text that is no key at all. What the command does not answer comes before the
first expression: a look-up of a zone that ends half-way, and a word that means no threshold for the log. In
all other cases it ends with a code.
-/

namespace RelativeTime

namespace CommandLine

theorem checked_of_request {words : List String} {arguments : Arguments}
    (asked : Request.ofArguments words = .ok (.evaluate arguments)) : arguments.Checked := by
  obtain ⟨items, -, consumed⟩ := bind_eq_ok_iff.mp asked
  exact checked_of_consume consumed ⟨nofun, nofun⟩

section

variable [ZoneDatabase] {arguments : Arguments} {settings : Settings} {surroundings : Surroundings}
  {weight : Nat} {error : ZoneKeyError}

/-! ## The configuration -/

theorem checkTimezone_eq_ok_iff : checkTimezone arguments = .ok () ↔
    ∀ key, arguments.timezone = some key → key ≠ "" → ∃ zone, Zone.named key = .ok zone := by
  rw [checkTimezone]
  cases arguments.timezone with
  | none => simp [nonEmpty?]
  | some key =>
    by_cases empty : key = ""
    · subst empty
      exact iff_of_true rfl fun key same given => absurd (Option.some.inj same).symm given
    · have given : nonEmpty? (some key) = some key := by simp [nonEmpty?, empty]
      rw [given]
      cases named : Zone.named key <;> simp [named, empty, Except.map]

theorem checkTimezone_eq_error_iff : checkTimezone arguments = .error error ↔
    ∃ key, arguments.timezone = some key ∧ key ≠ "" ∧ Zone.named key = .error error := by
  rw [checkTimezone]
  cases arguments.timezone with
  | none => simp [nonEmpty?]
  | some key =>
    by_cases empty : key = ""
    · subst empty
      exact iff_of_false nofun fun ⟨key, same, given, _⟩ => given (Option.some.inj same).symm
    · have given : nonEmpty? (some key) = some key := by simp [nonEmpty?, empty]
      rw [given]
      cases named : Zone.named key <;> simp [named, empty, Except.map]

theorem valid_overridden (valid : settings.Valid) (checked : arguments.Checked) :
    (overridden settings arguments).Valid where
  timezone := valid.timezone
  locales := by
    rw [overridden]
    by_cases unsaid : arguments.locales.isEmpty
    · simpa only [unsaid, if_true] using valid.locales
    · simp only [unsaid]
      exact ⟨arguments.locales, checked.locales, rfl⟩

/-- Over moments a text that is no key gives an error that is answered, so nothing else goes wrong with the
zone. -/
theorem located_workplace {parser : Parser TimeUnit ZoneRef} (zoned : checkTimezone arguments = .ok ())
    (overMoments : arguments.timezone = some "" → settings.adapter = .moment)
    (configured : ∃ zone, parser.config.timezone.zone = .ok zone) (now : Instant) :
    (workplace weight settings parser arguments now).Located := by
  have found {zone : Zone}
      (known : (parser.context (arguments.timezone.map .named)).timezone.zone = .ok zone) :
      (workplace weight settings parser arguments now).zone = .ok zone := by
    rw [Workplace.zone]
    split
    · exact known
    · exact ZoneRef.zoneForStamp_of_zone known
  cases given : arguments.timezone with
  | none =>
    obtain ⟨zone, configured⟩ := configured
    rw [Workplace.Located, found (by simpa [Parser.context, given] using configured)]
    intro error unfound
    cases unfound
  | some key =>
    -- the check lets the empty text pass, as if there were no option
    by_cases empty : key = ""
    · subst empty
      have unnormalized : (workplace weight settings parser arguments now).zone =
          .error (.unnormalized "") := by
        simp only [Workplace.zone, workplace, overMoments given, given, Parser.context, Option.map_some,
          Option.getD_some, ZoneRef.zone, Zone.named_empty]
      rw [Workplace.Located, unnormalized]
      rintro _ ⟨⟩
      rfl
    · obtain ⟨zone, named⟩ := checkTimezone_eq_ok_iff.mp zoned key given empty
      rw [Workplace.Located, found (by simpa [Parser.context, given, ZoneRef.zone] using named)]
      intro error unfound
      cases unfound

/-- With valid settings and checked arguments there is a parser, and the expressions are evaluated with it. -/
theorem evaluateWith_eq (valid : settings.Valid) (checked : arguments.Checked)
    (zoned : checkTimezone arguments = .ok ()) (weight : Nat) (now : Instant) :
    ∃ parser, (overridden settings arguments).parser = .ok parser ∧
      ((arguments.timezone = some "" → (overridden settings arguments).adapter = .moment) →
        (workplace weight (overridden settings arguments) parser arguments now).Located) ∧
      evaluateWith weight settings arguments now =
        ((workplace weight (overridden settings arguments) parser arguments now).perform
          arguments).reporting
          (logged weight .debug "nowish.app" (readyText (overridden settings arguments) parser)) := by
  have valid' := valid_overridden valid checked
  obtain ⟨config, -, created, timezone⟩ := valid'.exists_parser
  obtain ⟨zone, named⟩ := valid'.timezone
  refine ⟨⟨config⟩, created, fun overMoments => located_workplace zoned overMoments ⟨zone, ?_⟩ now, ?_⟩
  · rw [timezone]
    exact named
  · simp only [evaluateWith, zoned, created]

/-! ## The threshold -/

/-- The word for the threshold: that of the option, else that of the settings if they could be loaded, else
that of the variable. -/
def wantedLevel (arguments : Arguments) (surroundings : Surroundings) : String :=
  let inherited := surroundings.environment.lookup Setting.logLevel.variableName
  match Settings.load surroundings.environment surroundings.dotenv with
  | .error _ => levelWord [arguments.logLevel, inherited]
  | .ok settings => levelWord [arguments.logLevel, some settings.logLevel, inherited]

/-- Where the look-up of the zone of the settings ends half-way, it went too deep. -/
def Surroundings.Answered (surroundings : Surroundings) : Prop :=
  ∀ error, Settings.load surroundings.environment surroundings.dotenv = .error (.timezone error) →
    error.isTooDeep = true

theorem exists_describeLoadError (answered : surroundings.Answered) {refusal : Settings.LoadError}
    (refused : Settings.load surroundings.environment surroundings.dotenv = .error refusal) :
    ∃ text, describeLoadError refusal = .ok text := by
  cases refusal with
  | invalid errors => exact ⟨_, rfl⟩
  | timezone error => exact ⟨_, if_pos (answered error refused)⟩

theorem evaluate_of_brokenLookup
    (broken : Settings.load surroundings.environment surroundings.dotenv = .error (.timezone error))
    (shallow : error.isTooDeep = false) : evaluate arguments surroundings = .ended (.zone error) := by
  simp [evaluate, broken, describeLoadError, shallow]

theorem evaluate_of_unknownLevel (answered : surroundings.Answered) {word : String}
    (unknown : threshold (wantedLevel arguments surroundings) = .error word) :
    evaluate arguments surroundings = .ended (.unknownLevel word) := by
  rw [wantedLevel] at unknown
  rw [evaluate]
  cases loaded : Settings.load surroundings.environment surroundings.dotenv with
  | error refusal =>
    obtain ⟨text, described⟩ := exists_describeLoadError answered loaded
    simp only [loaded] at unknown
    simp only [described, unknown]
  | ok settings =>
    simp only [loaded] at unknown
    simp only [unknown]

theorem evaluate_of_settingErrors (answered : surroundings.Answered) {refusal : Settings.LoadError}
    (refused : Settings.load surroundings.environment surroundings.dotenv = .error refusal)
    (known : threshold (wantedLevel arguments surroundings) = .ok weight) :
    ∃ text, evaluate arguments surroundings = failedWith weight ("configuration failed: " ++ text) := by
  obtain ⟨text, described⟩ := exists_describeLoadError answered refused
  simp only [wantedLevel, refused] at known
  exact ⟨text, by simp only [evaluate, refused, described, known]⟩

theorem evaluate_of_settings
    (loaded : Settings.load surroundings.environment surroundings.dotenv = .ok settings)
    (known : threshold (wantedLevel arguments surroundings) = .ok weight) :
    evaluate arguments surroundings = evaluateWith weight settings arguments surroundings.now := by
  simp only [wantedLevel, loaded] at known
  simp only [evaluate, loaded, known]

/-! ## Ends -/

/-- The ends that are no codes, in the order in which the command comes to them: the look-up of the zone of
the settings ends half-way and did not go too deep, the word for the threshold of the log means none, or the
look-up of a zone given as an option ends half-way. -/
inductive Breaks (arguments : Arguments) (surroundings : Surroundings) : Ending → Prop where
  | setting {error : ZoneKeyError} :
    Settings.load surroundings.environment surroundings.dotenv = .error (.timezone error) →
      error.isTooDeep = false → Breaks arguments surroundings (.zone error)
  | level {word : String} : surroundings.Answered →
    threshold (wantedLevel arguments surroundings) = .error word →
      Breaks arguments surroundings (.unknownLevel word)
  | option {settings : Settings} {weight : Nat} {key : String} {error : ZoneKeyError} :
    Settings.load surroundings.environment surroundings.dotenv = .ok settings →
      threshold (wantedLevel arguments surroundings) = .ok weight → arguments.timezone = some key →
        Zone.brokenLookup? key = some error → Breaks arguments surroundings (.zone error)

theorem evaluateWith_of_brokenLookup {key : String} (given : arguments.timezone = some key)
    (broken : Zone.brokenLookup? key = some error) (now : Instant) :
    evaluateWith weight settings arguments now = .ended (.zone error) := by
  obtain ⟨unnamed, half⟩ := Zone.brokenLookup?_eq_some_iff.mp broken
  have filled : key ≠ "" := by
    rintro rfl
    cases Zone.named_empty.symm.trans unnamed
    cases half
  have refused := checkTimezone_eq_error_iff.mpr ⟨key, given, filled, unnamed⟩
  simp [evaluateWith, refused, half]

theorem Breaks.evaluate_eq {ending : Ending} (breaks : Breaks arguments surroundings ending) :
    evaluate arguments surroundings = .ended ending := by
  cases breaks with
  | setting broken shallow => exact evaluate_of_brokenLookup broken shallow
  | level answered unknown => exact evaluate_of_unknownLevel answered unknown
  | option loaded known given broken =>
    rw [evaluate_of_settings loaded known]
    exact evaluateWith_of_brokenLookup given broken surroundings.now

theorem ending_evaluateWith (valid : settings.Valid) (checked : arguments.Checked)
    (overMoments : arguments.timezone = some "" → (overridden settings arguments).adapter = .moment)
    (unbroken : ∀ key, arguments.timezone = some key → Zone.brokenLookup? key = none) (now : Instant) :
    (evaluateWith weight settings arguments now).ending = .exit 0 ∨
      (evaluateWith weight settings arguments now).ending = .exit invalidCode := by
  cases zoned : checkTimezone arguments with
  | error error =>
    obtain ⟨key, given, -, unnamed⟩ := checkTimezone_eq_error_iff.mp zoned
    have answered : error.namesNoZone = true := eq_true_of_ne_false fun half => by
      have broken := Zone.brokenLookup?_eq_some_iff.mpr ⟨unnamed, half⟩
      rw [unbroken key given] at broken
      cases broken
    simp only [evaluateWith, zoned, answered]
    exact .inr rfl
  | ok =>
    obtain ⟨parser, -, located, evaluated⟩ := evaluateWith_eq valid checked zoned weight now
    rw [evaluated, Outcome.ending_reporting]
    exact Workplace.ending_perform (located overMoments) arguments

theorem ending_of_unbroken (checked : arguments.Checked)
    (overMoments : ∀ settings,
      Settings.load surroundings.environment surroundings.dotenv = .ok settings →
        arguments.timezone = some "" → (overridden settings arguments).adapter = .moment)
    (unbroken : ∀ ending, ¬ Breaks arguments surroundings ending) :
    (evaluate arguments surroundings).ending = .exit 0 ∨
      (evaluate arguments surroundings).ending = .exit invalidCode := by
  have answered : surroundings.Answered := fun error refused =>
    eq_true_of_ne_false fun shallow => unbroken _ (.setting refused shallow)
  cases level : threshold (wantedLevel arguments surroundings) with
  | error word => exact absurd (.level answered level) (unbroken _)
  | ok weight =>
    cases loaded : Settings.load surroundings.environment surroundings.dotenv with
    | error refusal =>
      obtain ⟨text, failed⟩ := evaluate_of_settingErrors answered loaded level
      rw [failed]
      exact .inr rfl
    | ok settings =>
      rw [evaluate_of_settings loaded level]
      exact ending_evaluateWith (Settings.valid_of_load loaded) checked (overMoments settings loaded)
        (fun key given => Option.eq_none_iff_forall_ne_some.mpr fun error broken =>
          unbroken _ (.option loaded level given broken)) _

/-- Arguments that make sense end with a code, 0 or 2, exactly if nothing comes up that the command does not
answer, and with nothing printed or logged and just that otherwise. This is so over moments, and over stamps
provided that no empty key is given as an option. -/
theorem ends_with_code_iff_unbroken {words : List String}
    (asked : Request.ofArguments words = .ok (.evaluate arguments)) (surroundings : Surroundings)
    (overMoments : ∀ settings,
      Settings.load surroundings.environment surroundings.dotenv = .ok settings →
        arguments.timezone = some "" → (overridden settings arguments).adapter = .moment) :
    ((run words surroundings).ending = .exit 0 ∨ (run words surroundings).ending = .exit 2 ↔
      ∀ ending, ¬ Breaks arguments surroundings ending) ∧
    ∀ ending, Breaks arguments surroundings ending → run words surroundings = .ended ending := by
  have evaluated : run words surroundings = evaluate arguments surroundings := by rw [run, asked]
  rw [evaluated]
  refine ⟨⟨fun ended ending breaks => ?_, ending_of_unbroken (checked_of_request asked) overMoments⟩,
    fun ending => Breaks.evaluate_eq⟩
  rw [breaks.evaluate_eq] at ended
  cases breaks <;> exact ended.elim nofun nofun

end

/-- Noon on March 15th, 2024. -/
def springNoon : Instant :=
  ⟨(epoch1970 + 1710504000) * 1000000000, false⟩

/-- The arguments that give expressions and nothing else. -/
def Arguments.ofExpressions (expressions : List String) : Arguments :=
  { Progress.start.arguments with expressions }

/-- With `debug` in the environment the command ends with a code. -/
theorem debug_log_ends_with_code :
    Request.ofArguments ["now"] = .ok (.evaluate (.ofExpressions ["now"])) ∧
      ((run ["now"] ⟨[("LOG_LEVEL", "debug")], none, springNoon⟩).ending = .exit 0 ∨
        (run ["now"] ⟨[("LOG_LEVEL", "debug")], none, springNoon⟩).ending = .exit 2) := by
  have asked : Request.ofArguments ["now"] = .ok (.evaluate (.ofExpressions ["now"])) := by cbv
  have loaded : Settings.load [("LOG_LEVEL", "debug")] none = .ok ⟨"UTC", "", .moment, "debug"⟩ := by cbv
  have level : threshold (wantedLevel (.ofExpressions ["now"])
      ⟨[("LOG_LEVEL", "debug")], none, springNoon⟩) = .ok 10 := by cbv
  have unsaid : (Arguments.ofExpressions ["now"]).timezone ≠ some "" := by
    simp [Arguments.ofExpressions, Progress.start]
  refine ⟨asked, (ends_with_code_iff_unbroken asked _ fun _ _ said => absurd said unsaid).1.mpr ?_⟩
  intro ending breaks
  cases breaks with
  | setting broken => cases broken.symm.trans loaded
  | level _ unknown => cases unknown.symm.trans level
  | option _ _ given => cases given

/-- `loud` is no word for a threshold, as an option as little as in the environment, and the command ends with
no code for it. -/
theorem loud_log_ends_with_error :
    Request.ofArguments ["--log-level", "loud", "now"] =
        .ok (.evaluate { Arguments.ofExpressions ["now"] with logLevel := some "loud" }) ∧
      run ["--log-level", "loud", "now"] ⟨[], none, springNoon⟩ = .ended (.unknownLevel "LOUD") ∧
      run ["now"] ⟨[("LOG_LEVEL", "loud")], none, springNoon⟩ = .ended (.unknownLevel "LOUD") :=
  ⟨by cbv, by cbv, by cbv⟩

end CommandLine

end RelativeTime
