import RelativeTime.Proofs.CommandLine.Arguments
import RelativeTime.Zone.Database

/-!
# Options in front of other arguments

An option with its value in front of other arguments only changes where the consumption of the others starts,
if the value is plain and valid, and is wrong usage otherwise. So the options for the zone, the locales and
the adapter in front of other arguments fill up what the others come to (`ofArguments_optionWords`).
-/

namespace RelativeTime

namespace CommandLine

variable {progress : Progress} {option : CommandOption} {word value key adapter : String}
  {rest words : List String} {locales : List Locale} {base : Arguments}

/-- What arguments come to from a progress. -/
def Progress.request (progress : Progress) (words : List String) : Except UsageError Request := do
  consume progress [] (← classifyAll words)

/-- The text is a plain argument even in front of a separator. -/
def IsPlain (text : String) : Prop :=
  classify text = .ok (.plain text) ∧ text ≠ "--"

/-- The word spells an option that takes its value from the next argument. -/
def SpellsOption (word : String) (option : CommandOption) : Prop :=
  classify word = .ok (.option option none) ∧ word ≠ "--" ∧ ¬ option.isFlag = true

theorem classifyAll_cons {item : Item} (classified : classify word = .ok item) (unmarked : word ≠ "--") :
    classifyAll (word :: words) = (classifyAll words).map (item :: ·) := by
  rw [classifyAll, if_neg unmarked, classified]
  cases classifyAll words <;> rfl

theorem request_option (spelled : SpellsOption word option) (plain : IsPlain value)
    (valid : checkChoice option value = .ok ()) :
    progress.request (word :: value :: rest) = (progress.store option value).request rest := by
  rw [Progress.request, Progress.request, classifyAll_cons spelled.1 spelled.2.1,
    classifyAll_cons plain.1 plain.2]
  cases classifyAll rest with
  | error error => rfl
  | ok items =>
    refine (consume_value spelled.2.2 value).trans ?_
    rw [valid]
    rfl

/-- The value of an option has to be plain and valid. -/
theorem valid_of_request_option {request : Request} (spelled : SpellsOption word option)
    (asked : progress.request (word :: value :: rest) = .ok request) :
    IsPlain value ∧ checkChoice option value = .ok () := by
  rw [Progress.request, classifyAll_cons spelled.1 spelled.2.1] at asked
  obtain ⟨_, mapped, consumed⟩ := bind_eq_ok_iff.mp asked
  obtain ⟨items, told, rfl⟩ := exists_of_map_eq_ok mapped
  -- the next item was consumed as the value, so it is plain, and no separator since that is told apart
  have unmissed : ∃ text others, items = .plain text :: others := by
    by_cases missing : ∀ text others, items = .plain text :: others → False
    · rw [consume_missing spelled.2.2 missing] at consumed
      cases consumed
    · simpa using missing
  obtain ⟨text, others, rfl⟩ := unmissed
  rw [classifyAll] at told
  split at told
  case isTrue => cases told
  case isFalse unmarked =>
    obtain ⟨item, classified, told⟩ := bind_eq_ok_iff.mp told
    obtain ⟨_, -, same⟩ := bind_eq_ok_iff.mp told
    cases same
    obtain same | ⟨option, attached, same⟩ | same := classify_cases classified
    · cases same
      obtain ⟨⟨⟩, valid, -⟩ := bind_eq_ok_iff.mp ((consume_value spelled.2.2 _).symm.trans consumed)
      exact ⟨⟨classified, unmarked⟩, valid⟩
    · cases same
    · cases same

/-! ## The zone, the locales and the adapter -/

theorem spellsOption_timezone : SpellsOption "--tz" .timezone :=
  ⟨rfl, by decide, by decide⟩

theorem spellsOption_locale : SpellsOption "--locale" .locale :=
  ⟨rfl, by decide, by decide⟩

theorem spellsOption_adapter : SpellsOption "--adapter" .adapter :=
  ⟨rfl, by decide, by decide⟩

theorem isPlain_of_head {text : String} (undashed : text.toList.head? ≠ some '-') : IsPlain text := by
  refine ⟨by simp only [classify, undashed, ne_eq, not_false_eq_true, if_true], ?_⟩
  rintro rfl
  exact undashed rfl

theorem isPlain_code (locale : Locale) : IsPlain locale.code := by
  cases locale <;> exact isPlain_of_head (by decide)

theorem isPlain_name (kind : TimeKind) : IsPlain kind.name := by
  cases kind <;> exact isPlain_of_head (by decide)

/-- No zone has a key that could be taken for an option. -/
theorem isPlain_of_named [ZoneDatabase] {zone : Zone} (named : Zone.named key = .ok zone) : IsPlain key :=
  isPlain_of_head (Zone.undashed_of_named named)

/-- The options that say the zone, the locales and the adapter. -/
def optionWords (key : String) (locales : List Locale) (adapter : String) : List String :=
  "--tz" :: key :: (locales.flatMap fun locale => ["--locale", locale.code]) ++ ["--adapter", adapter]

/-- What those options say. -/
def optionArguments (key : String) (locales : List Locale) (adapter : String) : Arguments :=
  { Progress.start.arguments with
    timezone := some key, locales := locales.map Locale.code, adapter := some adapter }

theorem store_locale (base : Arguments) (code : String) : (Progress.start.over base).store .locale code =
    Progress.start.over { base with locales := base.locales ++ [code] } := by
  simp [Progress.start, Progress.over, Progress.store, Arguments.over, Arguments.store]

theorem request_locales (base : Arguments) : (Progress.start.over base).request
      ((locales.flatMap fun locale => ["--locale", locale.code]) ++ rest) =
    (Progress.start.over { base with locales := base.locales ++ locales.map Locale.code }).request rest := by
  induction locales generalizing base with
  | nil => simp
  | cons locale others inductionHypothesis =>
    have valid := checkChoice_locale_iff.mpr ⟨locale, rfl⟩
    refine (request_option spellsOption_locale (isPlain_code locale) valid).trans ?_
    rw [store_locale]
    refine (inductionHypothesis _).trans ?_
    simp

theorem ofArguments_eq_request (plain : IsPlain key) :
    Request.ofArguments (optionWords key locales adapter ++ words) =
      (Progress.start.over { Progress.start.arguments with
        timezone := some key, locales := locales.map Locale.code }).request
        ("--adapter" :: adapter :: words) := by
  have stored : Progress.start.store .timezone key =
      Progress.start.over { Progress.start.arguments with timezone := some key } := rfl
  calc Request.ofArguments (optionWords key locales adapter ++ words)
      = Progress.start.request ("--tz" :: key ::
          ((locales.flatMap fun locale => ["--locale", locale.code]) ++ "--adapter" :: adapter :: words)) := by
        simp [optionWords, Progress.request, Request.ofArguments]
    _ = _ := by
        rw [request_option spellsOption_timezone plain rfl, stored, request_locales]
        rfl

/-- The options in front fill up what the other arguments come to. -/
theorem ofArguments_optionWords (locales : List Locale) (words : List String) (plain : IsPlain key)
    (kind : TimeKind) :
    Request.ofArguments (optionWords key locales kind.name ++ words) =
      (Request.ofArguments words).map (Request.over (optionArguments key locales kind.name)) := by
  have stored : (Progress.start.over { Progress.start.arguments with
        timezone := some key, locales := locales.map Locale.code }).store .adapter kind.name =
      Progress.start.over (optionArguments key locales kind.name) := by
    simp [Progress.start, Progress.over, Progress.store, Arguments.over, Arguments.store, optionArguments]
  have valid := checkChoice_adapter_iff.mpr ⟨kind, rfl⟩
  rw [ofArguments_eq_request plain, request_option spellsOption_adapter (isPlain_name kind) valid, stored,
    Progress.request, Request.ofArguments]
  cases classifyAll words with
  | error error => rfl
  | ok items => exact consume_over _ _ _ _

/-- With a zone that is no plain argument or an adapter that there is not the usage is wrong. -/
theorem valid_of_ofArguments_optionWords {request : Request}
    (asked : Request.ofArguments (optionWords key locales adapter ++ words) = .ok request) :
    IsPlain key ∧ ∃ kind : TimeKind, kind.name = adapter := by
  have plain : IsPlain key := (valid_of_request_option spellsOption_timezone asked).1
  rw [ofArguments_eq_request plain] at asked
  exact ⟨plain, checkChoice_adapter_iff.mp (valid_of_request_option spellsOption_adapter asked).2⟩

end CommandLine

end RelativeTime
