import RelativeTime.Proofs.Config.Extension

/-!
# Locales in any order

Each locale is added to what the locales before it have left, but its names come out as if it had been added
alone: no spelling of a locale is a code that a locale spells, and no two locales spell one word for different
codes. So a configuration with locales has the names of the base and, for every listed locale, its spellings
with the units that their codes have in the base (`Config.IsLocalised`). That speaks of the listed codes as a
set, and so does the condition for success, that no listed locale clashes with the base.
-/

namespace RelativeTime

/-! ## The words of all locales -/

namespace Locale

theorem ofCode?_eq_some_iff {code : String} {locale : Locale} :
    ofCode? code = some locale ↔ locale.code = code := by
  constructor
  · intro named
    simpa using List.find?_some named
  · rintro rfl
    cases locale <;> decide

/-- A word that two locales have stands for the same code in both. -/
theorem target_eq_of_name_eq (locale other : Locale) :
    ∀ entry ∈ locale.aliases, ∀ entry' ∈ other.aliases, entry.1 = entry'.1 → entry.2 = entry'.2 := by
  cases locale <;> cases other <;> decide +kernel

/-- No locale has a word that is a code for a locale. -/
theorem name_ne_target (locale other : Locale) :
    ∀ entry ∈ locale.aliases, ∀ entry' ∈ other.aliases, entry.1 ≠ entry'.2 := by
  cases locale <;> cases other <;> decide +kernel

theorem keywords_nodup (locale : Locale) : locale.keywords.Nodup := by
  cases locale <;> decide

end Locale

namespace Config

variable {υ ζ : Type} {config config' base : Config υ ζ} {codes codes' : List String} {locale : Locale}

/-! ## Exactly the locales -/

/-- The configuration accepts what the other one accepts and what the locales with the codes say, and
nothing else. -/
structure IsLocalised (config base : Config υ ζ) (codes : List String) : Prop where
  units : ∀ name unit, config.units.find? name = some unit ↔ base.units.find? name = some unit ∨
    ∃ locale : Locale, locale.code ∈ codes ∧
      ∃ entry ∈ locale.aliases, entry.1 = name ∧ base.units.find? entry.2 = some unit
  keywords : ∀ keyword, keyword ∈ config.keywords ↔ keyword ∈ base.keywords ∨
    ∃ locale : Locale, locale.code ∈ codes ∧ keyword ∈ locale.keywords
  timezone : config.timezone = base.timezone

/-- A spelling of the locale stands for another unit in the configuration than its code does. -/
def Clashes (config : Config υ ζ) (locale : Locale) : Prop :=
  ∃ entry ∈ locale.aliases, config.units.Clashes config.units entry

theorem IsLocalised.refl (config : Config υ ζ) : config.IsLocalised config [] where
  units name unit := by simp
  keywords keyword := by simp
  timezone := rfl

/-- Locales leave the codes alone that locales spell. -/
theorem IsLocalised.find?_target (localised : config.IsLocalised base codes)
    {entry : String × String} (member : entry ∈ locale.aliases) (unit : υ) :
    config.units.find? entry.2 = some unit ↔ base.units.find? entry.2 = some unit := by
  rw [localised.units]
  refine or_iff_left ?_
  rintro ⟨other, -, entry', member', same, -⟩
  exact Locale.name_ne_target other locale entry' member' entry member same

theorem IsLocalised.append (second : config'.IsLocalised config codes')
    (first : config.IsLocalised base codes) : config'.IsLocalised base (codes ++ codes') where
  units name unit := by
    rw [second.units, first.units]
    -- the second locales find the units of their codes where the first ones found them
    have targets (locale : Locale) : (∃ entry ∈ locale.aliases, entry.1 = name ∧
        config.units.find? entry.2 = some unit) ↔ ∃ entry ∈ locale.aliases, entry.1 = name ∧
          base.units.find? entry.2 = some unit :=
      exists_congr fun entry => and_congr_right fun member =>
        and_congr_right fun _ => first.find?_target member unit
    simp only [targets, List.mem_append, or_and_right, exists_or, or_assoc]
  keywords keyword := by
    rw [second.keywords, first.keywords]
    simp only [List.mem_append, or_and_right, exists_or, or_assoc]
  timezone := second.timezone.trans first.timezone

/-- Added locales make no other locale clash. -/
theorem IsLocalised.clashes_iff (localised : config.IsLocalised base codes) :
    config.Clashes locale ↔ base.Clashes locale := by
  refine exists_congr fun entry => and_congr_right fun member => ?_
  constructor
  · rintro ⟨unit, existing, target, found, different⟩
    rw [localised.find?_target member] at target
    rcases (localised.units entry.1 existing).mp found with
      found | ⟨other, listed, entry', member', same, target'⟩
    · exact ⟨unit, existing, target, found, different⟩
    · rw [Locale.target_eq_of_name_eq other locale entry' member' entry member same, target] at target'
      exact absurd (Option.some.inj target').symm different
  · rintro ⟨unit, existing, target, found, different⟩
    exact ⟨unit, existing, (localised.find?_target member unit).mpr target,
      (localised.units _ _).mpr (.inl found), different⟩

/-- A configuration that is localised has no more to learn from the locales. -/
theorem IsLocalised.speaks (localised : config.IsLocalised base codes) (listed : locale.code ∈ codes) :
    config.Speaks locale config where
  keywords keyword member := (localised.keywords keyword).mpr (.inr ⟨locale, listed, member⟩)
  spellings entry member unit found := (localised.units _ _).mpr
    (.inr ⟨locale, listed, entry, member, rfl, (localised.find?_target member unit).mp found⟩)

/-- The codes count as a set. -/
theorem IsLocalised.same (localised : config.IsLocalised base codes)
    (localised' : config'.IsLocalised base codes') (same : ∀ code, code ∈ codes ↔ code ∈ codes') :
    (∀ keyword, keyword ∈ config.keywords ↔ keyword ∈ config'.keywords) ∧
      ∀ name, config.units.find? name = config'.units.find? name := by
  constructor
  · intro keyword
    simp only [localised.keywords, localised'.keywords, same]
  · intro name
    refine Option.ext fun unit => ?_
    simp only [localised.units, localised'.units, same]

variable [DecidableEq υ]

/-! ## One locale -/

theorem isLocalised_of_withLocale (localised : config.withLocale locale = .ok config') :
    config'.IsLocalised config [locale.code] := by
  obtain ⟨larger, speaks⟩ := extends_of_withLocale localised
  obtain ⟨units, extended, returned⟩ := bind_eq_ok_iff.mp localised
  obtain rfl := Except.ok.inj returned
  have only (other : Locale) : other.code ∈ [locale.code] ↔ other = locale := by
    rw [List.mem_singleton]
    cases other <;> cases locale <;> decide
  refine ⟨fun name unit => ?_, fun keyword => ?_, rfl⟩
  · simp only [only, exists_eq_left]
    exact UnitTable.find?_of_foldlM_addAlias extended
  · simp only [only, exists_eq_left]
    constructor
    · intro member
      rcases List.mem_append.mp member with member | member
      · exact .inl member
      · exact .inr ((List.mem_filter.mp member).1)
    · rintro (member | member)
      · exact larger.keywords keyword member
      · exact speaks.keywords keyword member

theorem withLocale_eq_ok_iff :
    (∃ config', config.withLocale locale = .ok config') ↔ ¬ config.Clashes locale := by
  have free : ¬ config.Clashes locale ↔
      ∀ entry ∈ locale.aliases, ¬ config.units.Clashes config.units entry := by
    simp only [Clashes, not_exists, not_and]
  rw [free, ← UnitTable.foldlM_addAlias_eq_ok_iff (Locale.target_eq_of_name_eq locale locale)]
  constructor
  · rintro ⟨config', localised⟩
    obtain ⟨units, extended, -⟩ := bind_eq_ok_iff.mp localised
    exact ⟨units, extended⟩
  · rintro ⟨units, extended⟩
    exact ⟨_, bind_eq_ok_iff.mpr ⟨units, extended, rfl⟩⟩

/-- A locale that a configuration speaks is not added again, and leaves even the order of its names. -/
theorem withLocale_eq_self (speaks : config.Speaks locale config) :
    config.withLocale locale = .ok config := by
  have known : locale.keywords.filter (fun keyword => !config.keywords.contains keyword) = [] := by
    simpa [List.filter_eq_nil_iff] using speaks.keywords
  refine bind_eq_ok_iff.mpr ⟨config.units, UnitTable.extend_eq_self speaks.spellings, ?_⟩
  simp only [known, List.append_nil]
  rfl

/-! ## Lists of locales -/

theorem isLocalised_of_withLocales (localised : base.withLocales codes = .ok config) :
    config.IsLocalised base codes := by
  induction codes generalizing base with
  | nil =>
    obtain rfl := Except.ok.inj localised
    exact .refl base
  | cons code rest inductionHypothesis =>
    rw [withLocales, List.foldlM_cons] at localised
    obtain ⟨next, first, others⟩ := bind_eq_ok_iff.mp localised
    rw [withLocaleCode] at first
    split at first
    · next locale named =>
      obtain rfl := Locale.ofCode?_eq_some_iff.mp named
      exact (inductionHypothesis others).append (isLocalised_of_withLocale first)
    · contradiction

/-- Locales can be added in a row exactly if each can be added on its own. -/
theorem withLocales_eq_ok_iff : (∃ config, base.withLocales codes = .ok config) ↔
    ∀ code ∈ codes, ∃ locale : Locale, locale.code = code ∧ ¬ base.Clashes locale := by
  induction codes generalizing base with
  | nil => exact iff_of_true ⟨base, rfl⟩ nofun
  | cons code rest inductionHypothesis =>
    rw [List.forall_mem_cons]
    -- what is left to check after the first locale is what was to be checked before it
    have unchanged {next : Config υ ζ} {locale : Locale} (first : base.withLocale locale = .ok next)
        (other : Locale) : next.Clashes other ↔ base.Clashes other :=
      (isLocalised_of_withLocale first).clashes_iff
    have split : (∃ config, base.withLocales (code :: rest) = .ok config) ↔
        ∃ locale : Locale, locale.code = code ∧ ∃ next, base.withLocale locale = .ok next ∧
          ∃ config, next.withLocales rest = .ok config := by
      constructor
      · rintro ⟨config, localised⟩
        rw [withLocales, List.foldlM_cons] at localised
        obtain ⟨next, first, others⟩ := bind_eq_ok_iff.mp localised
        rw [withLocaleCode] at first
        split at first
        · next locale named =>
          exact ⟨locale, Locale.ofCode?_eq_some_iff.mp named, next, first, config, others⟩
        · contradiction
      · rintro ⟨locale, named, next, first, config, others⟩
        refine ⟨config, ?_⟩
        rw [withLocales, List.foldlM_cons, withLocaleCode, Locale.ofCode?_eq_some_iff.mpr named]
        exact bind_eq_ok_iff.mpr ⟨next, first, others⟩
    rw [split]
    constructor
    · rintro ⟨locale, named, next, first, others⟩
      refine ⟨⟨locale, named, withLocale_eq_ok_iff.mp ⟨next, first⟩⟩, fun other member => ?_⟩
      obtain ⟨locale', named', free⟩ := inductionHypothesis.mp others other member
      exact ⟨locale', named', fun clashes => free ((unchanged first locale').mpr clashes)⟩
    · rintro ⟨⟨locale, named, free⟩, others⟩
      obtain ⟨next, first⟩ := withLocale_eq_ok_iff.mpr free
      refine ⟨locale, named, next, first, inductionHypothesis.mpr fun other member => ?_⟩
      obtain ⟨locale', named', free'⟩ := others other member
      exact ⟨locale', named', fun clashes => free' ((unchanged first locale').mp clashes)⟩

theorem withLocales_eq_self (speaks : ∀ code ∈ codes, ∃ locale : Locale, locale.code = code ∧
    config.Speaks locale config) : config.withLocales codes = .ok config := by
  induction codes with
  | nil => rfl
  | cons code rest inductionHypothesis =>
    obtain ⟨⟨locale, named, spoken⟩, others⟩ := List.forall_mem_cons.mp speaks
    rw [withLocales, List.foldlM_cons, withLocaleCode, Locale.ofCode?_eq_some_iff.mpr named]
    exact bind_eq_ok_iff.mpr ⟨config, withLocale_eq_self spoken, inductionHypothesis others⟩

/-- Keywords come after those that were there, none of them twice. -/
theorem exists_keywords_of_withLocales (localised : base.withLocales codes = .ok config) :
    ∃ added, config.keywords = base.keywords ++ added ∧ added.Nodup ∧
      ∀ keyword ∈ added, keyword ∉ base.keywords := by
  refine holds_of_foldlM (fun config : Config υ ζ => ∃ added, config.keywords = base.keywords ++ added ∧
    added.Nodup ∧ ∀ keyword ∈ added, keyword ∉ base.keywords) ?_ ⟨[], by simp⟩ localised
  rintro s code s' ⟨added, keywords, nodup, fresh⟩ first
  rw [withLocaleCode] at first
  split at first
  · next locale named =>
    obtain ⟨units, extended, returned⟩ := bind_eq_ok_iff.mp first
    obtain rfl := Except.ok.inj returned
    refine ⟨added ++ locale.keywords.filter fun keyword => !s.keywords.contains keyword, ?_, ?_, ?_⟩
    · simp only [keywords, List.append_assoc]
    · refine List.nodup_append.mpr ⟨nodup, locale.keywords_nodup.filter _, ?_⟩
      rintro keyword member _ member' rfl
      simp [keywords, member] at member'
    · intro keyword member
      rcases List.mem_append.mp member with member | member
      · exact fresh keyword member
      · simp [keywords] at member
        exact member.2.1
  · contradiction

/-! ## The set of locales -/

/-- Two lists of the same codes are both refused or both added, and then they give the same keywords and the
same units. A list is refused exactly if a code in it is no locale or a spelling of a locale in it, with its
code in the base, stands for another unit there. Adding a list once more changes nothing at all, and no
keyword is added that was there or twice. -/
theorem locales_in_any_order (base : Config υ ζ) {codes codes' : List String}
    (same : ∀ code, code ∈ codes ↔ code ∈ codes') :
    ((∃ config, base.withLocales codes = .ok config) ↔
      ∃ config, base.withLocales codes' = .ok config) ∧
    ((∃ error, base.withLocales codes = .error error) ↔
      ∃ code ∈ codes, Locale.ofCode? code = none ∨
        ∃ locale, Locale.ofCode? code = some locale ∧ ∃ entry ∈ locale.aliases, ∃ unit existing,
          base.units.find? entry.2 = some unit ∧ base.units.find? entry.1 = some existing ∧
            existing ≠ unit) ∧
    (∀ config config', base.withLocales codes = .ok config → base.withLocales codes' = .ok config' →
      (∀ keyword, keyword ∈ config.keywords ↔ keyword ∈ config'.keywords) ∧
        ∀ name, config.units.find? name = config'.units.find? name) ∧
    (∀ config, base.withLocales codes = .ok config →
      config.withLocales codes = .ok config ∧
        ∃ added, config.keywords = base.keywords ++ added ∧ added.Nodup ∧
          ∀ keyword ∈ added, keyword ∉ base.keywords) := by
  refine ⟨?_, ?_, fun config config' localised localised' => ?_, fun config localised => ⟨?_, ?_⟩⟩
  · rw [withLocales_eq_ok_iff, withLocales_eq_ok_iff]
    simp only [same]
  · have failed : (∃ error, base.withLocales codes = .error error) ↔
        ¬ ∃ config, base.withLocales codes = .ok config := by
      cases base.withLocales codes <;> simp
    rw [failed, withLocales_eq_ok_iff]
    simp only [Classical.not_forall]
    refine exists_congr fun code => ?_
    rw [exists_prop]
    refine and_congr_right fun _ => ?_
    simp only [← Locale.ofCode?_eq_some_iff]
    cases named : Locale.ofCode? code with
    | none => simp
    | some locale =>
      simp only [Option.some.injEq, exists_eq_left', Classical.not_not, reduceCtorEq, false_or]
      rfl
  · exact (isLocalised_of_withLocales localised).same (isLocalised_of_withLocales localised') same
  · refine withLocales_eq_self fun code listed => ?_
    obtain ⟨locale, named, -⟩ := withLocales_eq_ok_iff.mp ⟨config, localised⟩ code listed
    exact ⟨locale, named, (isLocalised_of_withLocales localised).speaks (named ▸ listed)⟩
  · exact exists_keywords_of_withLocales localised

/-- Days under their code and a German word, weeks under their code and a Spanish word for something else. -/
def borrowedWords : Config Char Unit where
  units := .ofEntries [("d", 'd'), ("Tag", 'd'), ("w", 'w'), ("mes", 'w')]
  timezone := ()
  keywords := ["now", "jetzt"]

/-- German before or after Russian, and once or twice, makes no difference: the keyword and the word that are
there already are kept. Spanish has no months here to call `mes`, and with months it would be refused. -/
theorem german_and_russian_in_any_order :
    (∀ code, code ∈ ["de", "ru", "de"] ↔ code ∈ ["ru", "de"]) ∧
      ∃ config config', borrowedWords.withLocales ["de", "ru", "de"] = .ok config ∧
        borrowedWords.withLocales ["ru", "de"] = .ok config' ∧
        config.keywords = ["now", "jetzt", "сейчас"] ∧ config.units.find? "Tage" = some 'd' ∧
        (∀ name, config.units.find? name = config'.units.find? name) ∧
        config.withLocales ["de", "ru", "de"] = .ok config ∧
        (∃ error, ({ borrowedWords with units := borrowedWords.units.insert "mo" 'm' }).withLocales
          ["de", "es"] = .error error) := by
  have same : ∀ code, code ∈ ["de", "ru", "de"] ↔ code ∈ ["ru", "de"] := by
    intro code
    simp only [List.mem_cons, List.not_mem_nil, or_false]
    grind
  have localised : borrowedWords.withLocales ["de", "ru", "de"] = .ok _ := rfl
  have localised' : borrowedWords.withLocales ["ru", "de"] = .ok _ := rfl
  obtain ⟨-, -, alike, again⟩ := locales_in_any_order borrowedWords same
  obtain ⟨-, refused, -, -⟩ := locales_in_any_order
    { borrowedWords with units := borrowedWords.units.insert "mo" 'm' }
    (fun code => Iff.rfl : ∀ code, code ∈ ["de", "es"] ↔ code ∈ ["de", "es"])
  refine ⟨same, _, _, localised, localised', rfl, rfl, (alike _ _ localised localised').2,
    (again _ localised).1, refused.mpr ?_⟩
  exact ⟨"es", by decide, .inr ⟨.es, rfl, ("mes", "mo"), by decide, 'm', 'w', rfl, rfl, by decide⟩⟩

end Config

end RelativeTime
