import RelativeTime.Proofs.Settings.LocaleList

/-!
# Valid settings

Settings that have been loaded name a zone and only locales that exist, and such settings always have a
parser: no word of a locale is taken in the default configuration.
-/

namespace RelativeTime

namespace Settings

variable {settings : Settings} {environment : List (String × String)} {dotenv : Option String}

/-! ## Loaded settings -/

/-- The settings as they are after checking. -/
structure Valid [ZoneDatabase] (settings : Settings) : Prop where
  timezone : ∃ zone, Zone.named settings.timezone = .ok zone
  locales : ∃ codes : List String, (∀ code ∈ codes, ∃ locale : Locale, locale.code = code) ∧
    settings.locales = joined codes

theorem checkTimezone_eq_ok_iff [ZoneDatabase] {value stored : String} :
    checkTimezone value = .ok stored ↔ (∃ zone, Zone.named value = .ok zone) ∧ stored = value := by
  rw [checkTimezone]
  cases Zone.named value with
  | ok zone => simp [eq_comm]
  | error error => simp

theorem checkAdapter_eq_ok_iff {value : String} {kind : TimeKind} :
    checkAdapter value = .ok kind ↔ kind.name = value := by
  constructor
  · intro checked
    rw [checkAdapter] at checked
    split at checked
    case h_1 found =>
      obtain rfl := Except.ok.inj checked
      simpa using List.find?_some found
    case h_2 => cases checked
  · rintro rfl
    cases kind <;> rfl

section

variable [ZoneDatabase]

theorem load_eq_ok_iff : load environment dotenv = .ok settings ↔
    checkTimezone (valueIn environment dotenv .timezone) = .ok settings.timezone ∧
      checkLocales (valueIn environment dotenv .locales) = .ok settings.locales ∧
        checkAdapter (valueIn environment dotenv .adapter) = .ok settings.adapter ∧
          settings.logLevel = valueIn environment dotenv .logLevel := by
  obtain ⟨timezone, locales, adapter, logLevel⟩ := settings
  rw [load]
  split
  case h_1 error broken =>
    refine iff_of_false nofun ?_
    rintro ⟨validTimezone, -⟩
    obtain ⟨⟨zone, named⟩, -⟩ := checkTimezone_eq_ok_iff.mp validTimezone
    rw [Zone.brokenLookup?_of_named named] at broken
    cases broken
  case h_2 =>
    simp only
    split
    case h_1 timezone' locales' adapter' validTimezone validLocales validAdapter =>
      rw [validTimezone, validLocales, validAdapter]
      simp only [Except.ok.injEq, Settings.mk.injEq, eq_comm]
    case h_2 invalid =>
      refine iff_of_false nofun ?_
      rintro ⟨validTimezone, validLocales, validAdapter, -⟩
      exact invalid _ _ _ validTimezone validLocales validAdapter

/-- The look-up of the zone ends half-way exactly if loading says so. -/
theorem load_eq_timezone_iff {error : ZoneKeyError} : load environment dotenv = .error (.timezone error) ↔
    Zone.brokenLookup? (valueIn environment dotenv .timezone) = some error := by
  rw [load]
  split
  case h_1 other broken => simp [broken]
  case h_2 answered =>
    rw [answered]
    refine iff_of_false (fun refused => ?_) nofun
    simp only at refused
    split at refused <;> cases refused

theorem valid_of_load (loaded : load environment dotenv = .ok settings) : settings.Valid := by
  obtain ⟨timezone, locales, -, -⟩ := load_eq_ok_iff.mp loaded
  obtain ⟨named, same⟩ := checkTimezone_eq_ok_iff.mp timezone
  obtain ⟨known, stored⟩ := checkLocales_eq_ok_iff.mp locales
  exact ⟨same ▸ named, _, known, stored⟩

end

/-- The codes of valid settings are codes of locales. -/
theorem Valid.exists_locale [ZoneDatabase] (valid : settings.Valid) :
    ∀ code ∈ settings.localeCodes, ∃ locale : Locale, locale.code = code := by
  obtain ⟨codes, known, stored⟩ := valid.locales
  rw [localeCodes, stored, storedCodes_joined known]
  exact known

/-! ## Their parsers -/

/-- No word of a locale is a name of a unit to begin with. -/
theorem find?_timeUnits_name (locale : Locale) :
    ∀ entry ∈ locale.aliases, UnitTable.timeUnits.find? entry.1 = none := by
  cases locale <;> decide +kernel

theorem default_not_clashes (timezone : ZoneRef) (locale : Locale) :
    ¬ (Config.default timezone).Clashes locale := by
  rintro ⟨entry, member, unit, existing, -, found, -⟩
  rw [Config.default, find?_timeUnits_name locale entry member] at found
  cases found

theorem create_default (timezone : ZoneRef) :
    Parser.create (Config.default timezone) = .ok ⟨Config.default timezone⟩ :=
  rfl

theorem parser_of_withLocales {config : Config TimeUnit ZoneRef}
    (localised : (Config.default (.named settings.timezone)).withLocales settings.localeCodes = .ok config) :
    settings.parser = .ok ⟨config⟩ :=
  bind_eq_ok_iff.mpr ⟨config, localised, Parser.create_of_extends (create_default _)
    (Config.extends_of_withLocales localised).1⟩

/-- Valid settings have a parser. Its configuration is the default one with their locales, and has their
time zone. -/
theorem Valid.exists_parser [ZoneDatabase] (valid : settings.Valid) : ∃ config,
    (Config.default (.named settings.timezone)).withLocales settings.localeCodes = .ok config ∧
      settings.parser = .ok ⟨config⟩ ∧ config.timezone = .named settings.timezone := by
  -- each locale on its own meets the default configuration, whatever is listed before it
  obtain ⟨config, localised⟩ := Config.withLocales_eq_ok_iff.mpr fun code member => by
    obtain ⟨locale, named⟩ := valid.exists_locale code member
    exact ⟨locale, named, default_not_clashes (.named settings.timezone) locale⟩
  exact ⟨config, localised, parser_of_withLocales localised,
    (Config.extends_of_withLocales localised).1.timezone⟩

end Settings

/-! ## The time zone has no part in it -/

section

variable {υ ζ : Type} [DecidableEq υ]

theorem Config.withLocaleCode_timezone (config : Config υ ζ) (timezone : ζ) (code : String) :
    { config with timezone }.withLocaleCode code =
      (config.withLocaleCode code).map fun localised => { localised with timezone } := by
  rw [withLocaleCode, withLocaleCode]
  cases Locale.ofCode? code with
  | none => rfl
  | some locale =>
    simp only [withLocale]
    cases config.units.extend locale.aliases <;> rfl

theorem Config.withLocales_timezone (config : Config υ ζ) (timezone : ζ) (codes : List String) :
    { config with timezone }.withLocales codes =
      (config.withLocales codes).map fun localised => { localised with timezone } := by
  induction codes generalizing config with
  | nil => rfl
  | cons code rest inductionHypothesis =>
    simp only [withLocales, List.foldlM_cons] at inductionHypothesis ⊢
    rw [withLocaleCode_timezone]
    cases config.withLocaleCode code with
    | error error => rfl
    | ok localised => exact inductionHypothesis localised

end

/-- The parsers of settings with the same locales differ in their time zones only. -/
theorem Settings.parser_of_sameLocales {settings settings' : Settings} {config : Config TimeUnit ZoneRef}
    (sameLocales : settings'.locales = settings.locales)
    (localised : (Config.default (.named settings.timezone)).withLocales settings.localeCodes = .ok config) :
    settings'.parser = .ok ⟨{ config with timezone := .named settings'.timezone }⟩ := by
  have sameCodes : settings'.localeCodes = settings.localeCodes := by
    rw [localeCodes, localeCodes, sameLocales]
  have renamed := (Config.default (.named settings.timezone)).withLocales_timezone
    (.named settings'.timezone) settings.localeCodes
  rw [localised, ← sameCodes] at renamed
  exact parser_of_withLocales renamed

end RelativeTime
