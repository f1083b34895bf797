import RelativeTime.Proofs.CommandLine.Endings
import RelativeTime.Proofs.CommandLine.OptionsInFront
import RelativeTime.Proofs.Settings.Variables

/-!
# Settings that are left open

Arguments can leave the zone, the locales and the adapter to the settings, and surroundings can leave them to
the fallbacks. Variables for them make just these settings (`valueOf_withVariables`); the threshold of the log
may change with them, since an environment file can refer to any variable.
-/

namespace RelativeTime

namespace CommandLine

variable {words : List String} {arguments : Arguments} {surroundings : Surroundings} {key adapter : String}
  {locales : List Locale}

/-! ## Arguments -/

/-- The zone, the locales and the adapter are not said. -/
structure Arguments.LeavesOpen (arguments : Arguments) : Prop where
  timezone : arguments.timezone = none
  locales : arguments.locales = []
  adapter : arguments.adapter = none

/-- Of the options there are only those about evaluating and logging. -/
def LeaveOpen (words : List String) : Prop :=
  ∀ items, classifyAll words = .ok items → ∀ option attached, .option option attached ∈ items →
    option = .roundUp ∨ option = .range ∨ option = .logLevel

theorem LeaveOpen.evaluates (leaveOpen : LeaveOpen words) {request : Request}
    (asked : Request.ofArguments words = .ok request) :
    ∃ arguments : Arguments, request = .evaluate arguments ∧ arguments.LeavesOpen := by
  obtain ⟨items, told, consumed⟩ := bind_eq_ok_iff.mp asked
  obtain ⟨-, attached, help⟩ | evaluates := consume_cases items Arguments.LeavesOpen
    (fun _ _ leavesOpen => ⟨leavesOpen.timezone, leavesOpen.locales, leavesOpen.adapter⟩)
    (fun option attached _ _ member _ leavesOpen => by
      obtain rfl | rfl | rfl := leaveOpen items told option attached member <;>
        exact ⟨leavesOpen.timezone, leavesOpen.locales, leavesOpen.adapter⟩)
    (fun _ member => member) ⟨rfl, rfl, rfl⟩ consumed
  · simpa using leaveOpen items told .help attached help
  · exact evaluates

/-- The flags of a choice. -/
def flagWords (roundUp range : Bool) : List String :=
  (if roundUp then ["--round-up"] else []) ++ if range then ["--range"] else []

/-- The options among flags and expressions after `--` are flags. -/
theorem flag_of_mem {roundUp range : Bool} {expressions : List String} {items : List Item}
    (told : classifyAll (flagWords roundUp range ++ "--" :: expressions) = .ok items)
    {option : CommandOption} {attached : Option Attached} (member : .option option attached ∈ items) :
    option = .roundUp ∨ option = .range := by
  have given : classifyAll (flagWords roundUp range ++ "--" :: expressions) =
      .ok ((if roundUp then [.option .roundUp none] else []) ++
        (if range then [.option .range none] else []) ++ .separator :: expressions.map .plain) := by
    cases roundUp <;> cases range <;> rfl
  obtain rfl := Except.ok.inj (given.symm.trans told)
  cases roundUp <;> cases range <;> simp at member <;> grind

theorem leaveOpen_flagWords (roundUp range : Bool) (expressions : List String) :
    LeaveOpen (flagWords roundUp range ++ "--" :: expressions) :=
  fun _ told _ _ member => (flag_of_mem told member).imp_right .inl

theorem logLevel_of_flagWords {roundUp range : Bool} {expressions : List String}
    (asked : Request.ofArguments (flagWords roundUp range ++ "--" :: expressions) =
      .ok (.evaluate arguments)) : arguments.logLevel = none := by
  obtain ⟨items, told, consumed⟩ := bind_eq_ok_iff.mp asked
  obtain ⟨⟨⟩, -⟩ | ⟨_, ⟨⟩, unsaid⟩ := consume_cases items (·.logLevel = none) (fun _ _ unsaid => unsaid)
    (fun option attached _ _ member _ unsaid => by
      obtain rfl | rfl := flag_of_mem told member <;> exact unsaid)
    (fun _ member => member) rfl consumed
  exact unsaid

/-! ## Variables -/

/-- No variable makes the setting. -/
structure Surroundings.Unset (surroundings : Surroundings) (setting : Setting) : Prop where
  environment : ∀ entry ∈ surroundings.environment, entry.1.toLower ≠ setting.variableName.toLower
  dotenv : ∀ text ∈ surroundings.dotenv, ∀ entry ∈ Dotenv.assignments text.toList,
    entry.1.toLower ≠ setting.variableName.toLower

/-- The surroundings with variables for the zone, the locales and the adapter. -/
def Surroundings.withVariables (surroundings : Surroundings) (key : String) (locales : List Locale)
    (adapter : String) : Surroundings :=
  { surroundings with environment :=
      (Setting.timezone.variableName, key) ::
      (Setting.locales.variableName, Settings.joined (locales.map Locale.code)) ::
      (Setting.adapter.variableName, adapter) :: surroundings.environment }

/-- The value of a setting in the surroundings. -/
def Surroundings.valueOf (surroundings : Surroundings) (setting : Setting) : String :=
  Settings.valueIn surroundings.environment surroundings.dotenv setting

theorem valueOf_of_unset {setting : Setting} (unset : surroundings.Unset setting) :
    surroundings.valueOf setting = setting.fallback :=
  Settings.valueIn_of_unset unset.environment unset.dotenv

/-- The variables make their settings. -/
theorem valueOf_withVariables (key : String) (locales : List Locale) (adapter : String)
    (unset : ∀ setting ≠ Setting.logLevel, surroundings.Unset setting) :
    (surroundings.withVariables key locales adapter).valueOf .timezone = key ∧
      (surroundings.withVariables key locales adapter).valueOf .locales =
        Settings.joined (locales.map Locale.code) ∧
      (surroundings.withVariables key locales adapter).valueOf .adapter = adapter := by
  simp only [Surroundings.valueOf, Settings.valueIn, Surroundings.withVariables, List.map_cons]
  have others (setting : Setting) (made : setting ≠ .logLevel) :=
    Settings.inherited_ne (unset setting made).environment
  refine ⟨?_, ?_, ?_⟩
  · have unset := others .timezone (by decide)
    rw [Settings.valueOf?_cons_self]
    · rfl
    · simpa [lower_variableName_ne] using unset
  · have unset := others .locales (by decide)
    rw [Settings.valueOf?_cons_of_ne (lower_variableName_ne (by decide)), Settings.valueOf?_cons_self]
    · rfl
    · simpa [lower_variableName_ne] using unset
  · rw [Settings.valueOf?_cons_of_ne (lower_variableName_ne (by decide)),
      Settings.valueOf?_cons_of_ne (lower_variableName_ne (by decide)),
      Settings.valueOf?_cons_self (others .adapter (by decide))]
    rfl

theorem Surroundings.Unset.withVariables (unset : surroundings.Unset .logLevel) (key : String)
    (locales : List Locale) (adapter : String) :
    (surroundings.withVariables key locales adapter).Unset .logLevel where
  environment := by
    simpa [Surroundings.withVariables, lower_variableName_ne] using unset.environment
  dotenv := unset.dotenv

/-! ## The threshold -/

/-- The word for the threshold means one, whether or not the settings can be loaded. -/
def Surroundings.KnowsLevel (surroundings : Surroundings) (arguments : Arguments) : Prop :=
  let inherited := surroundings.environment.lookup Setting.logLevel.variableName
  (∃ weight, threshold (levelWord [arguments.logLevel, inherited]) = .ok weight) ∧
    ∃ weight, threshold
      (levelWord [arguments.logLevel, some (surroundings.valueOf .logLevel), inherited]) = .ok weight

/-- With nothing said about it the threshold is the usual one. -/
theorem knowsLevel_of_unset (unset : surroundings.Unset .logLevel) (unsaid : arguments.logLevel = none) :
    surroundings.KnowsLevel arguments := by
  have inherited : surroundings.environment.lookup Setting.logLevel.variableName = none := by
    refine List.lookup_eq_none_iff.mpr fun entry member => bne_iff_ne.mpr ?_
    rintro same
    exact unset.environment entry member (same ▸ rfl)
  simp only [Surroundings.KnowsLevel, inherited, unsaid, valueOf_of_unset unset]
  exact ⟨⟨20, rfl⟩, 20, rfl⟩

theorem KnowsLevel.exists_weight [ZoneDatabase] (knows : surroundings.KnowsLevel arguments) :
    ∃ weight, threshold (wantedLevel arguments surroundings) = .ok weight := by
  rw [wantedLevel]
  cases loaded : Settings.load surroundings.environment surroundings.dotenv with
  | error refusal => exact knows.1
  | ok settings =>
    obtain ⟨-, -, -, level⟩ := Settings.load_eq_ok_iff.mp loaded
    simp only [level]
    exact knows.2

/-! ## The settings that are made -/

/-- Settings for the zone, the locales and the adapter, with the threshold of the surroundings. -/
def Surroundings.made (surroundings : Surroundings) (key : String) (locales : List Locale)
    (kind : TimeKind) : Settings :=
  ⟨key, Settings.joined (locales.map Locale.code), kind, surroundings.valueOf .logLevel⟩

section

variable [ZoneDatabase] (unset : ∀ setting ≠ Setting.logLevel, surroundings.Unset setting)
include unset

theorem load_of_unset : Settings.load surroundings.environment surroundings.dotenv =
    .ok (surroundings.made "UTC" [] .moment) := by
  have timezone := valueOf_of_unset (unset .timezone (by decide))
  have locales := valueOf_of_unset (unset .locales (by decide))
  have adapter := valueOf_of_unset (unset .adapter (by decide))
  rw [Surroundings.valueOf] at timezone locales adapter
  have noLocales : Settings.checkLocales (Settings.joined []) = .ok (Settings.joined []) :=
    Settings.checkLocales_joined nofun
  refine Settings.load_eq_ok_iff.mpr ?_
  rw [timezone, locales, adapter]
  exact ⟨Settings.checkTimezone_eq_ok_iff.mpr ⟨Zone.exists_named_utc, rfl⟩, noLocales, rfl, rfl⟩

theorem load_withVariables (locales : List Locale) {zone : Zone} (named : Zone.named key = .ok zone)
    (kind : TimeKind) :
    Settings.load (surroundings.withVariables key locales kind.name).environment
        (surroundings.withVariables key locales kind.name).dotenv =
      .ok ((surroundings.withVariables key locales kind.name).made key locales kind) := by
  obtain ⟨timezone, codes, adapter⟩ := valueOf_withVariables key locales kind.name unset
  rw [Surroundings.valueOf] at timezone codes adapter
  refine Settings.load_eq_ok_iff.mpr ?_
  rw [timezone, codes, adapter]
  exact ⟨Settings.checkTimezone_eq_ok_iff.mpr ⟨⟨zone, named⟩, rfl⟩,
    Settings.checkLocales_joined fun code member => by
      obtain ⟨locale, -, same⟩ := List.mem_map.mp member
      exact ⟨locale, same⟩,
    Settings.checkAdapter_eq_ok_iff.mpr rfl, rfl⟩

/-- The zone and the adapter of variables that are accepted are known. -/
theorem known_of_load_withVariables {settings : Settings}
    (loaded : Settings.load (surroundings.withVariables key locales adapter).environment
      (surroundings.withVariables key locales adapter).dotenv = .ok settings) :
    (∃ zone, Zone.named key = .ok zone) ∧ ∃ kind : TimeKind, kind.name = adapter := by
  obtain ⟨timezone, -, adapter'⟩ := valueOf_withVariables key locales adapter unset
  rw [Surroundings.valueOf] at timezone adapter'
  obtain ⟨checkedTimezone, -, checkedAdapter, -⟩ := Settings.load_eq_ok_iff.mp loaded
  rw [timezone] at checkedTimezone
  rw [adapter'] at checkedAdapter
  exact ⟨(Settings.checkTimezone_eq_ok_iff.mp checkedTimezone).1,
    settings.adapter, Settings.checkAdapter_eq_ok_iff.mp checkedAdapter⟩

theorem load_withVariables_eq_timezone_iff {error : ZoneKeyError} :
    Settings.load (surroundings.withVariables key locales adapter).environment
        (surroundings.withVariables key locales adapter).dotenv = .error (.timezone error) ↔
      Zone.brokenLookup? key = some error := by
  obtain ⟨timezone, -⟩ := valueOf_withVariables key locales adapter unset
  rw [Surroundings.valueOf] at timezone
  rw [Settings.load_eq_timezone_iff, timezone]

end

/-! ## Options over open settings -/

theorem timezone_over (leavesOpen : arguments.LeavesOpen) (key : String) (locales : List Locale)
    (adapter : String) : (arguments.over (optionArguments key locales adapter)).timezone = some key := by
  simp [Arguments.over, optionArguments, leavesOpen.timezone]

theorem overridden_over (leavesOpen : arguments.LeavesOpen) (surroundings : Surroundings) (key : String)
    (locales : List Locale) (kind : TimeKind) :
    overridden (surroundings.made "UTC" [] .moment)
        (arguments.over (optionArguments key locales kind.name)) =
      surroundings.made "UTC" locales kind := by
  have named : TimeKind.ofName? kind.name = some kind := by cases kind <;> rfl
  cases locales <;>
    simp [overridden, Surroundings.made, Arguments.over, optionArguments, leavesOpen.adapter,
      leavesOpen.locales, named]

theorem overridden_of_leavesOpen (leavesOpen : arguments.LeavesOpen) (settings : Settings) :
    overridden settings arguments = settings := by
  simp [overridden, leavesOpen.adapter, leavesOpen.locales]

/-- The zone is the same, once by the call and once by the configuration. -/
theorem alike_workplaces (leavesOpen : arguments.LeavesOpen) (weight weight' : Nat)
    (surroundings surroundings' : Surroundings) (sameNow : surroundings.now = surroundings'.now)
    (config : Config TimeUnit ZoneRef) (key : String) (locales : List Locale) (kind : TimeKind) :
    Workplace.Alike
      (workplace weight (surroundings.made "UTC" locales kind) ⟨config⟩
        (arguments.over (optionArguments key locales kind.name)) surroundings.now)
      (workplace weight' (surroundings'.made key locales kind) ⟨{ config with timezone := .named key }⟩
        arguments surroundings'.now) := by
  refine ⟨rfl, sameNow, rfl, rfl, ?_⟩
  simp [workplace, Parser.context, Arguments.over, optionArguments, leavesOpen.timezone]

end CommandLine

end RelativeTime
