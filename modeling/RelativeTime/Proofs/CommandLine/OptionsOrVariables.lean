import RelativeTime.Proofs.CommandLine.OpenSettings

/-!
# Options or variables

The zone, the locales and the adapter can be given as options or as variables. The options leave the settings
at their fallbacks and override them for this run; the variables become settings. Either way nothing is
printed without a zone and an adapter, and with both the workplaces evaluate everything alike. The ends are
set apart by a look-up that only one of the two ways answers, and by the empty key, which as an option is left
to the times to look up.
-/

namespace RelativeTime

namespace CommandLine

section

variable [ZoneDatabase] {words : List String} {arguments : Arguments} {surroundings : Surroundings}
  {key adapter : String} {locales : List Locale} {error : ZoneKeyError}

/-- With this key and adapter options and variables can end in different ways. A look-up that goes too deep is
answered for the settings and not for an option. One that ends half-way for another reason is not made where
the usage is wrong. The empty key is no zone for the settings, and as an option it is what stamps look up. -/
inductive SetsApart (key adapter : String) : Prop where
  | tooDeep {error : ZoneKeyError} : Zone.brokenLookup? key = some error → error.isTooDeep = true →
    IsPlain key → (∃ kind : TimeKind, kind.name = adapter) → SetsApart key adapter
  | unusable {error : ZoneKeyError} : Zone.brokenLookup? key = some error → error.isTooDeep = false →
    ¬ (IsPlain key ∧ ∃ kind : TimeKind, kind.name = adapter) → SetsApart key adapter
  | empty : key = "" → adapter = TimeKind.stamp.name → SetsApart key adapter

/-- What the words have to be and the surroundings to leave open for options and variables to be compared. -/
structure Comparable (words : List String) (surroundings : Surroundings) (key : String)
    (locales : List Locale) (adapter : String) : Prop where
  leaveOpen : LeaveOpen words
  unset : ∀ setting ≠ Setting.logLevel, surroundings.Unset setting
  knowsLevel : ∀ arguments, Request.ofArguments words = .ok (.evaluate arguments) →
    surroundings.KnowsLevel arguments ∧
      (surroundings.withVariables key locales adapter).KnowsLevel arguments

theorem refused_of_usageError {error : UsageError} (wrong : Request.ofArguments words = .error error) :
    (run words surroundings).Refused := by
  rw [run, wrong]
  exact ⟨rfl, rfl⟩

/-! ## By variables -/

section

variable (comparable : Comparable words surroundings key locales adapter)
  (asked : Request.ofArguments words = .ok (.evaluate arguments))
include comparable asked

theorem run_variables_of_brokenLookup (broken : Zone.brokenLookup? key = some error)
    (shallow : error.isTooDeep = false) :
    run words (surroundings.withVariables key locales adapter) = .ended (.zone error) := by
  rw [run, asked]
  exact evaluate_of_brokenLookup ((load_withVariables_eq_timezone_iff comparable.unset).mpr broken) shallow

/-- Variables with a zone or an adapter that there is not are refused, provided that the look-up of the zone
is answered. -/
theorem refused_variables
    (unknown : ¬ ((∃ zone, Zone.named key = .ok zone) ∧ ∃ kind : TimeKind, kind.name = adapter))
    (answered : ∀ error, Zone.brokenLookup? key = some error → error.isTooDeep = true) :
    (run words (surroundings.withVariables key locales adapter)).Refused := by
  have settled : (surroundings.withVariables key locales adapter).Answered := fun error refused =>
    answered error ((load_withVariables_eq_timezone_iff comparable.unset).mp refused)
  obtain ⟨weight, known⟩ := KnowsLevel.exists_weight (comparable.knowsLevel arguments asked).2
  rw [run, asked]
  cases loaded : Settings.load (surroundings.withVariables key locales adapter).environment
      (surroundings.withVariables key locales adapter).dotenv with
  | error refusal =>
    obtain ⟨text, failed⟩ := evaluate_of_settingErrors settled loaded known
    simp only [failed]
    exact refused_failedWith _ _
  | ok settings => exact absurd (known_of_load_withVariables comparable.unset loaded) unknown

end

/-! ## By options -/

/-- With a zone that is no plain argument or an adapter that there is not the usage is wrong. -/
theorem refused_of_unusable (unusable : ¬ (IsPlain key ∧ ∃ kind : TimeKind, kind.name = adapter)) :
    (run (optionWords key locales adapter ++ words) surroundings).Refused := by
  cases asked : Request.ofArguments (optionWords key locales adapter ++ words) with
  | error error => exact refused_of_usageError asked
  | ok request => exact absurd (valid_of_ofArguments_optionWords asked) unusable

section

variable {kind : TimeKind} (comparable : Comparable words surroundings key locales kind.name)
  (plain : IsPlain key) (asked : Request.ofArguments words = .ok (.evaluate arguments))
include comparable plain asked

/-- The arguments with the options in front are evaluated with the fallbacks for settings. -/
theorem exists_run_options : ∃ weight,
    (arguments.over (optionArguments key locales kind.name)).Checked ∧
      run (optionWords key locales kind.name ++ words) surroundings =
        evaluateWith weight (surroundings.made "UTC" [] .moment)
          (arguments.over (optionArguments key locales kind.name)) surroundings.now := by
  obtain ⟨weight, known⟩ := KnowsLevel.exists_weight (comparable.knowsLevel arguments asked).1
  have askedOver : Request.ofArguments (optionWords key locales kind.name ++ words) =
      .ok (.evaluate (arguments.over (optionArguments key locales kind.name))) := by
    rw [ofArguments_optionWords locales words plain, asked]
    rfl
  have sameLevel : wantedLevel (arguments.over (optionArguments key locales kind.name)) surroundings =
      wantedLevel arguments surroundings := by
    simp [wantedLevel, Arguments.over, optionArguments, Progress.start]
  refine ⟨weight, checked_of_request askedOver, ?_⟩
  rw [run, askedOver]
  exact evaluate_of_settings (load_of_unset comparable.unset) (sameLevel ▸ known)

variable (leavesOpen : arguments.LeavesOpen)
include leavesOpen

theorem run_options_of_brokenLookup (broken : Zone.brokenLookup? key = some error) :
    run (optionWords key locales kind.name ++ words) surroundings = .ended (.zone error) := by
  obtain ⟨weight, -, ran⟩ := exists_run_options comparable plain asked
  rw [ran]
  exact evaluateWith_of_brokenLookup (timezone_over leavesOpen key locales kind.name) broken surroundings.now

/-- An option with a zone that there is not is refused. -/
theorem refused_options (filled : key ≠ "") (unnamed : Zone.named key = .error error)
    (answered : error.namesNoZone = true) :
    (run (optionWords key locales kind.name ++ words) surroundings).Refused := by
  obtain ⟨weight, -, ran⟩ := exists_run_options comparable plain asked
  have refused := checkTimezone_eq_error_iff.mpr
    ⟨key, timezone_over leavesOpen key locales kind.name, filled, unnamed⟩
  simp only [ran, evaluateWith, refused, answered]
  exact refused_failedWith _ _

/-- With the empty key as an option no expression has a value. -/
theorem silent_options_empty (empty : key = "") :
    (run (optionWords key locales kind.name ++ words) surroundings).output = [] ∧
      ((run (optionWords key locales kind.name ++ words) surroundings).ending = .exit invalidCode ∨
        kind = .stamp) := by
  subst empty
  obtain ⟨weight, checked, ran⟩ := exists_run_options comparable plain asked
  have said := timezone_over leavesOpen "" locales kind.name
  have zoned : checkTimezone (arguments.over (optionArguments "" locales kind.name)) = .ok () :=
    checkTimezone_eq_ok_iff.mpr fun key same filled =>
      absurd (Option.some.inj (said.symm.trans same)).symm filled
  obtain ⟨parser, -, -, evaluated⟩ := evaluateWith_eq
    (Settings.valid_of_load (load_of_unset comparable.unset)) checked zoned weight surroundings.now
  rw [overridden_over leavesOpen] at evaluated
  rw [ran, evaluated, Outcome.output_reporting, Outcome.ending_reporting]
  have filled : arguments.expressions ≠ [] := expressions_of_request asked
  -- the two kinds of times look the empty key up in their own ways, and neither finds a zone
  cases kind with
  | moment =>
    have unzoned : (workplace weight (surroundings.made "UTC" locales .moment) parser
        (arguments.over (optionArguments "" locales TimeKind.moment.name)) surroundings.now).zone =
          .error (.unnormalized "") := by
      simp only [Workplace.zone, workplace, said, Surroundings.made, Parser.context, Option.map_some,
        Option.getD_some, ZoneRef.zone, Zone.named_empty]
    obtain ⟨silent, refused | ⟨-, valid⟩⟩ := Workplace.silent_perform unzoned filled
    · exact ⟨silent, .inl refused⟩
    · cases valid
  | stamp =>
    have unzoned : (workplace weight (surroundings.made "UTC" locales .stamp) parser
        (arguments.over (optionArguments "" locales TimeKind.stamp.name)) surroundings.now).zone =
          .error .empty := by
      simp only [Workplace.zone, workplace, said, Surroundings.made, Parser.context, Option.map_some,
        Option.getD_some, ZoneRef.zoneForStamp, ZoneDatabase.findForStamp_empty]
    exact ⟨(Workplace.silent_perform unzoned filled).1, .inr rfl⟩

end

/-! ## What is accepted -/

/-- With a known zone and adapter both ways come to workplaces that evaluate alike. -/
theorem agrees_of_known {zone : Zone} (named : Zone.named key = .ok zone) {kind : TimeKind}
    (comparable : Comparable words surroundings key locales kind.name)
    (asked : Request.ofArguments words = .ok (.evaluate arguments)) (leavesOpen : arguments.LeavesOpen) :
    (run (optionWords key locales kind.name ++ words) surroundings).Agrees
      (run words (surroundings.withVariables key locales kind.name)) := by
  obtain ⟨weight, checkedOver, ranOver⟩ := exists_run_options comparable (isPlain_of_named named) asked
  obtain ⟨weight', known⟩ := KnowsLevel.exists_weight (comparable.knowsLevel arguments asked).2
  have loaded := load_withVariables comparable.unset locales named kind
  have ran : run words (surroundings.withVariables key locales kind.name) = evaluateWith weight'
      ((surroundings.withVariables key locales kind.name).made key locales kind) arguments
        surroundings.now := by
    rw [run, asked]
    exact evaluate_of_settings loaded known
  have zonedOver : checkTimezone (arguments.over (optionArguments key locales kind.name)) = .ok () :=
    checkTimezone_eq_ok_iff.mpr fun said same _ =>
      ⟨zone, Option.some.inj ((timezone_over leavesOpen key locales kind.name).symm.trans same) ▸ named⟩
  have zoned : checkTimezone arguments = .ok () :=
    checkTimezone_eq_ok_iff.mpr (by simp [leavesOpen.timezone])
  have valid := Settings.valid_of_load (load_of_unset comparable.unset)
  obtain ⟨parserOver, createdOver, -, evaluatedOver⟩ :=
    evaluateWith_eq valid checkedOver zonedOver weight surroundings.now
  obtain ⟨parser, created, -, evaluated⟩ := evaluateWith_eq (Settings.valid_of_load loaded)
    (checked_of_request asked) zoned weight' surroundings.now
  rw [overridden_over leavesOpen] at createdOver evaluatedOver
  rw [overridden_of_leavesOpen leavesOpen] at created evaluated
  -- the parsers differ in their zone and in nothing else
  have validOver := valid_overridden valid checkedOver
  rw [overridden_over leavesOpen] at validOver
  obtain ⟨config, localised, createdConfig, -⟩ := validOver.exists_parser
  obtain rfl := Except.ok.inj (createdOver.symm.trans createdConfig)
  -- the words for the threshold of the log can differ, but they have no part in a parser
  have sameLocales : ((surroundings.withVariables key locales kind.name).made key locales kind).locales =
      (surroundings.made "UTC" locales kind).locales := rfl
  obtain rfl := Except.ok.inj (created.symm.trans (Settings.parser_of_sameLocales sameLocales localised))
  rw [ranOver, ran, evaluatedOver, evaluated]
  exact (alike_workplaces leavesOpen weight weight' surroundings
    (surroundings.withVariables key locales kind.name) rfl config key locales kind).agrees_perform arguments

/-! ## Both ways -/

/-- The same is printed, and unless the key and the adapter set the ends apart they are the same. -/
def SameUnlessApart (key adapter : String) (outcome outcome' : Outcome) : Prop :=
  outcome.output = outcome'.output ∧ (¬ SetsApart key adapter → outcome.ending = outcome'.ending)

theorem Outcome.Agrees.sameUnlessApart {outcome outcome' : Outcome} (agrees : outcome.Agrees outcome') :
    SameUnlessApart key adapter outcome outcome' :=
  ⟨agrees.1, fun _ => agrees.2⟩

theorem sameUnlessApart_of_usable {kind : TimeKind}
    (comparable : Comparable words surroundings key locales kind.name) (plain : IsPlain key)
    (asked : Request.ofArguments words = .ok (.evaluate arguments)) (leavesOpen : arguments.LeavesOpen) :
    SameUnlessApart key kind.name (run (optionWords key locales kind.name ++ words) surroundings)
      (run words (surroundings.withVariables key locales kind.name)) := by
  cases looked : Zone.named key with
  | ok zone => exact (agrees_of_known looked comparable asked leavesOpen).sameUnlessApart
  | error error =>
    have unknown : ¬ ((∃ zone, Zone.named key = .ok zone) ∧ ∃ other : TimeKind, other.name = kind.name) := by
      rintro ⟨⟨zone, named⟩, -⟩
      cases looked.symm.trans named
    by_cases empty : key = ""
    · -- the check of the option lets the empty key pass, and only stamps then end half-way
      have answered : ∀ error, Zone.brokenLookup? key = some error → error.isTooDeep = true := by
        subst empty
        exact nofun
      have refused := refused_variables comparable asked unknown answered
      obtain ⟨silent, ended | stamps⟩ := silent_options_empty comparable plain asked leavesOpen empty
      · exact (Outcome.Refused.agrees ⟨silent, ended⟩ refused).sameUnlessApart
      · exact ⟨silent.trans refused.1.symm, fun joined => absurd (.empty empty (stamps ▸ rfl)) joined⟩
    · cases answered : error.namesNoZone with
      | true =>
        -- both ways refuse the key, the one as an option and the other as a setting
        have settled : ∀ other, Zone.brokenLookup? key = some other → other.isTooDeep = true := by
          intro other broken
          obtain ⟨same, half⟩ := Zone.brokenLookup?_eq_some_iff.mp broken
          cases looked.symm.trans same
          cases half.symm.trans answered
        exact ((refused_options comparable plain asked leavesOpen empty looked answered).agrees
          (refused_variables comparable asked unknown settled)).sameUnlessApart
      | false =>
        -- the option ends half-way for any such look-up, the setting unless it went too deep
        have broken := Zone.brokenLookup?_eq_some_iff.mpr ⟨looked, answered⟩
        rw [run_options_of_brokenLookup comparable plain asked leavesOpen broken]
        cases deep : error.isTooDeep with
        | true =>
          have refused := refused_variables comparable asked unknown fun other same =>
            Option.some.inj (broken.symm.trans same) ▸ deep
          exact ⟨refused.1.symm, fun joined => absurd (.tooDeep broken deep plain ⟨kind, rfl⟩) joined⟩
        | false =>
          rw [run_variables_of_brokenLookup comparable asked broken deep]
          exact ⟨rfl, fun _ => rfl⟩

theorem sameUnlessApart_of_unusable (comparable : Comparable words surroundings key locales adapter)
    (unusable : ¬ (IsPlain key ∧ ∃ kind : TimeKind, kind.name = adapter))
    (asked : Request.ofArguments words = .ok (.evaluate arguments)) :
    SameUnlessApart key adapter (run (optionWords key locales adapter ++ words) surroundings)
      (run words (surroundings.withVariables key locales adapter)) := by
  have refused : (run (optionWords key locales adapter ++ words) surroundings).Refused :=
    refused_of_unusable unusable
  by_cases shallow : ∃ error, Zone.brokenLookup? key = some error ∧ error.isTooDeep = false
  · obtain ⟨error, broken, shallow⟩ := shallow
    rw [run_variables_of_brokenLookup comparable asked broken shallow]
    exact ⟨refused.1, fun joined => absurd (.unusable broken shallow unusable) joined⟩
  · have unknown : ¬ ((∃ zone, Zone.named key = .ok zone) ∧ ∃ kind : TimeKind, kind.name = adapter) := by
      rintro ⟨⟨zone, named⟩, known⟩
      exact unusable ⟨isPlain_of_named named, known⟩
    exact (refused.agrees (refused_variables comparable asked unknown fun error broken =>
      eq_true_of_ne_false fun notDeep => shallow ⟨error, broken, notDeep⟩)).sameUnlessApart

theorem Comparable.sameUnlessApart (comparable : Comparable words surroundings key locales adapter) :
    SameUnlessApart key adapter (run (optionWords key locales adapter ++ words) surroundings)
      (run words (surroundings.withVariables key locales adapter)) := by
  by_cases usable : IsPlain key ∧ ∃ kind : TimeKind, kind.name = adapter
  · obtain ⟨plain, kind, rfl⟩ := usable
    cases asked : Request.ofArguments words with
    | error error =>
      have askedOver := ofArguments_optionWords locales words plain kind
      rw [asked] at askedOver
      exact ((refused_of_usageError askedOver).agrees (refused_of_usageError asked)).sameUnlessApart
    | ok request =>
      obtain ⟨arguments, rfl, leavesOpen⟩ := comparable.leaveOpen.evaluates asked
      exact sameUnlessApart_of_usable comparable plain asked leavesOpen
  · cases asked : Request.ofArguments words with
    | error error =>
      exact ((refused_of_unusable usable).agrees (refused_of_usageError asked)).sameUnlessApart
    | ok request =>
      obtain ⟨arguments, rfl, -⟩ := comparable.leaveOpen.evaluates asked
      exact sameUnlessApart_of_unusable comparable usable asked

/-- A key that is not empty sets the ends apart wherever it can. -/
theorem Comparable.ending_ne (comparable : Comparable words surroundings key locales adapter)
    (asked : Request.ofArguments words = .ok (.evaluate arguments)) (filled : key ≠ "")
    (apart : SetsApart key adapter) :
    (run (optionWords key locales adapter ++ words) surroundings).ending ≠
      (run words (surroundings.withVariables key locales adapter)).ending := by
  obtain ⟨_, ⟨⟩, leavesOpen⟩ := comparable.leaveOpen.evaluates asked
  cases apart with
  | tooDeep broken deep plain known =>
    obtain ⟨kind, rfl⟩ := known
    have unnamed := (Zone.brokenLookup?_eq_some_iff.mp broken).1
    have refused := refused_variables comparable asked
      (fun ⟨⟨zone, named⟩, _⟩ => nomatch unnamed.symm.trans named)
      fun other same => Option.some.inj (broken.symm.trans same) ▸ deep
    rw [run_options_of_brokenLookup comparable plain asked leavesOpen broken, refused.2]
    exact nofun
  | unusable broken shallow unusable =>
    rw [(refused_of_unusable unusable).2, run_variables_of_brokenLookup comparable asked broken shallow]
    exact nofun
  | empty empty => exact absurd empty filled

end

/-- Where no variable says the zone, the locales or the adapter, options for them print the same as variables
with the same values, whatever the zone and the adapter are, for every choice of flags and all expressions.
They also end the same way, unless the key and the adapter set the ends apart. The same is true in front of
any other arguments that leave the three open, provided that the word for the threshold of the log means one.
There a key that is not empty does set the ends apart where it can. -/
theorem options_same_as_variables [ZoneDatabase] {surroundings : Surroundings}
    (unset : ∀ setting ≠ Setting.logLevel, surroundings.Unset setting) (key : String) (locales : List Locale)
    (adapter : String) :
    (surroundings.Unset .logLevel → ∀ roundUp range expressions,
      SameUnlessApart key adapter
        (run (optionWords key locales adapter ++ (flagWords roundUp range ++ "--" :: expressions)) surroundings)
        (run (flagWords roundUp range ++ "--" :: expressions)
          (surroundings.withVariables key locales adapter))) ∧
    ∀ words, LeaveOpen words →
      (∀ arguments, Request.ofArguments words = .ok (.evaluate arguments) →
        surroundings.KnowsLevel arguments ∧
          (surroundings.withVariables key locales adapter).KnowsLevel arguments) →
      SameUnlessApart key adapter (run (optionWords key locales adapter ++ words) surroundings)
        (run words (surroundings.withVariables key locales adapter)) ∧
      ∀ arguments, Request.ofArguments words = .ok (.evaluate arguments) → key ≠ "" →
        SetsApart key adapter →
          (run (optionWords key locales adapter ++ words) surroundings).ending ≠
            (run words (surroundings.withVariables key locales adapter)).ending := by
  constructor
  · intro unsetLevel roundUp range expressions
    have comparable : Comparable (flagWords roundUp range ++ "--" :: expressions) surroundings key locales
        adapter :=
      ⟨leaveOpen_flagWords roundUp range expressions, unset, fun arguments asked =>
        ⟨knowsLevel_of_unset unsetLevel (logLevel_of_flagWords asked),
          knowsLevel_of_unset (unsetLevel.withVariables key locales adapter) (logLevel_of_flagWords asked)⟩⟩
    exact comparable.sameUnlessApart
  · intro words leaveOpen knowsLevel
    have comparable : Comparable words surroundings key locales adapter := ⟨leaveOpen, unset, knowsLevel⟩
    exact ⟨comparable.sameUnlessApart, fun arguments => comparable.ending_ne⟩

/-- Yesterday in Berlin, in German, comes out the same by options and by variables, also with a log. -/
theorem yesterday_by_options_or_variables :
    (run ["--tz", "Europe/Berlin", "--locale", "de", "--adapter", "datetime", "--range", "--",
        "jetzt-1Tag/Tag", "jetzt-1Tag/Tag"] ⟨[], none, springNoon⟩).Agrees
      (run ["--range", "--", "jetzt-1Tag/Tag", "jetzt-1Tag/Tag"] ⟨[("NOWISH_TIMEZONE", "Europe/Berlin"),
        ("NOWISH_LOCALES", "de"), ("NOWISH_ADAPTER", "datetime")], none, springNoon⟩) ∧
    (run ["--tz", "Europe/Berlin", "--locale", "de", "--adapter", "datetime", "--log-level", "debug", "--",
        "jetzt-1Tag/Tag"] ⟨[], none, springNoon⟩).Agrees
      (run ["--log-level", "debug", "--", "jetzt-1Tag/Tag"] ⟨[("NOWISH_TIMEZONE", "Europe/Berlin"),
        ("NOWISH_LOCALES", "de"), ("NOWISH_ADAPTER", "datetime")], none, springNoon⟩) := by
  have unset (setting : Setting) : (⟨[], none, springNoon⟩ : Surroundings).Unset setting := ⟨nofun, nofun⟩
  have found : Zone.brokenLookup? "Europe/Berlin" = none := by decide +kernel
  have joined : ¬ SetsApart "Europe/Berlin" "datetime" := by
    intro apart
    cases apart with
    | tooDeep broken => cases found.symm.trans broken
    | unusable broken => cases found.symm.trans broken
    | empty empty => exact absurd empty (by decide)
  obtain ⟨flags, others⟩ :=
    options_same_as_variables (fun setting _ => unset setting) "Europe/Berlin" [.de] "datetime"
  constructor
  · obtain ⟨printed, ended⟩ := flags (unset .logLevel) false true ["jetzt-1Tag/Tag", "jetzt-1Tag/Tag"]
    exact ⟨printed, ended joined⟩
  · have told : classifyAll ["--log-level", "debug", "--", "jetzt-1Tag/Tag"] =
        .ok [.option .logLevel none, .plain "debug", .separator, .plain "jetzt-1Tag/Tag"] := rfl
    have asked : Request.ofArguments ["--log-level", "debug", "--", "jetzt-1Tag/Tag"] = .ok (.evaluate
        { Arguments.ofExpressions ["jetzt-1Tag/Tag"] with logLevel := some "debug" }) := by cbv
    obtain ⟨⟨printed, ended⟩, -⟩ := others ["--log-level", "debug", "--", "jetzt-1Tag/Tag"]
      (fun items told' option attached member => by
        obtain rfl := Except.ok.inj (told.symm.trans told')
        simp_all)
      (fun arguments asked' => by
        obtain rfl := Request.evaluate.inj (Except.ok.inj (asked.symm.trans asked'))
        exact ⟨⟨⟨10, by cbv⟩, 10, by cbv⟩, ⟨10, by cbv⟩, 10, by cbv⟩)
    exact ⟨printed, ended joined⟩

/-- The empty key with stamps ends as an option with an error that the command does not answer, and as a
variable with a code. -/
theorem empty_key_sets_apart :
    (run ["--tz", "", "--adapter", "pandas", "now"] ⟨[], none, springNoon⟩).ending = .zone .empty ∧
      (run ["now"] ⟨[("NOWISH_TIMEZONE", ""), ("NOWISH_LOCALES", ""), ("NOWISH_ADAPTER", "pandas")], none,
        springNoon⟩).ending = .exit 2 :=
  ⟨by decide +kernel, by decide +kernel⟩

end CommandLine

end RelativeTime
