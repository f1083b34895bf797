import RelativeTime.Proofs.Config.Extension
import RelativeTime.Proofs.Parser.Range

/-!
# Spellings of locales

A parser with locales gives an expression without their spellings the meaning that it has without the
locales, and it gives the same meaning to the expression with keywords and units spelled as in the locales.
Both are about resolving: the same units are found under other names in a larger table
(`Expression.resolve_of_respells`). That the expression can be read in its new spelling is left to the
locales, all of whose spellings are words.
-/

namespace RelativeTime

open Expression (Form OffsetForm Resolved ResolvedOffset Slot Tokens)

/-! ## Respelling -/

/-- One of the locales with the codes has the second word as a spelling of the first, or the words are the
same. -/
def Locale.Spells (codes : List String) (word word' : List Char) : Prop :=
  word' = word ∨ ∃ code ∈ codes, ∃ locale, ofCode? code = some locale ∧
    (String.ofList word', String.ofList word) ∈ locale.aliases

/-- One of the locales with the codes has the second word as a keyword, or the words are the same. -/
def Locale.SpellsKeyword (codes : List String) (word word' : List Char) : Prop :=
  word' = word ∨ ∃ code ∈ codes, ∃ locale, ofCode? code = some locale ∧
    String.ofList word' ∈ locale.keywords

/-- The second offset is the first with other spellings of its units. -/
structure Expression.OffsetForm.Respells (codes : List String) (form form' : OffsetForm) : Prop where
  isNegative : form'.isNegative = form.isNegative
  digits : form'.digits = form.digits
  unit : Locale.Spells codes form.unit form'.unit
  rounding : Option.Rel (Locale.Spells codes) form.rounding form'.rounding

/-- The second expression is the first with other spellings of its keyword and its units. -/
structure Expression.Form.Respells (codes : List String) (form form' : Form) : Prop where
  keyword : Locale.SpellsKeyword codes form.keyword form'.keyword
  rounding : Option.Rel (Locale.Spells codes) form.rounding form'.rounding
  offset : Option.Rel (OffsetForm.Respells codes) form.offset form'.offset

theorem Locale.spells_refl (codes : List String) (word? : Option (List Char)) :
    Option.Rel (Spells codes) word? word? := by
  cases word? with
  | none => exact .none
  | some word => exact .some (.inl rfl)

theorem Expression.Form.Respells.refl (codes : List String) (form : Form) :
    form.Respells codes form := by
  obtain ⟨keyword, rounding, offset⟩ := form
  refine ⟨.inl rfl, Locale.spells_refl codes rounding, ?_⟩
  cases offset with
  | none => exact .none
  | some offset => exact .some ⟨rfl, rfl, .inl rfl, Locale.spells_refl codes offset.rounding⟩

/-! ## Reading -/

/-- Spellings and keywords are written in letters and combining marks. -/
theorem Locale.areWords (locale : Locale) :
    (∀ keyword ∈ locale.keywords, Text.IsWord keyword.toList) ∧
      ∀ entry ∈ locale.aliases, Text.IsWord entry.1.toList := by
  cases locale <;> decide +kernel

section

variable {codes : List String} {word word' : List Char}

theorem Locale.Spells.isWord (spells : Spells codes word word') (isWord : Text.IsWord word) :
    Text.IsWord word' := by
  rcases spells with rfl | ⟨_, -, locale, -, member⟩
  · exact isWord
  · simpa only [String.toList_ofList] using locale.areWords.2 _ member

theorem Locale.SpellsKeyword.isWord (spells : SpellsKeyword codes word word')
    (isWord : Text.IsWord word) : Text.IsWord word' := by
  rcases spells with rfl | ⟨_, -, locale, -, member⟩
  · exact isWord
  · simpa only [String.toList_ofList] using locale.areWords.1 _ member

theorem Locale.areWords_of_spells {word? word?' : Option (List Char)}
    (spells : Option.Rel (Spells codes) word? word?')
    (areWords : ∀ word, word? = some word → Text.IsWord word) :
    ∀ word, word?' = some word → Text.IsWord word := by
  cases spells with
  | none => exact nofun
  | some spells =>
    rintro _ ⟨⟩
    exact spells.isWord (areWords _ rfl)

namespace Expression

variable {form form' : Form}

theorem OffsetForm.Respells.wellFormed {offset offset' : OffsetForm}
    (respells : offset.Respells codes offset') (wellFormed : offset.WellFormed) :
    offset'.WellFormed where
  digits := by
    rw [respells.digits]
    exact wellFormed.digits
  unit := respells.unit.isWord wellFormed.unit
  rounding := Locale.areWords_of_spells respells.rounding wellFormed.rounding

theorem Form.Respells.wellFormed (respells : form.Respells codes form')
    (wellFormed : form.WellFormed) : form'.WellFormed where
  keyword := respells.keyword.isWord wellFormed.keyword
  rounding := Locale.areWords_of_spells respells.rounding wellFormed.rounding
  offset := by
    obtain ⟨keyword, rounding, offset⟩ := form
    obtain ⟨keyword', rounding', offset'⟩ := form'
    have related : Option.Rel (OffsetForm.Respells codes) offset offset' := respells.offset
    cases related with
    | none => exact nofun
    | some related =>
      rintro _ ⟨⟩
      exact related.wellFormed (wellFormed.offset _ rfl)

theorem Form.Respells.digitCount_eq (respells : form.Respells codes form') :
    form'.digitCount = form.digitCount := by
  obtain ⟨keyword, rounding, offset⟩ := form
  obtain ⟨keyword', rounding', offset'⟩ := form'
  have related : Option.Rel (OffsetForm.Respells codes) offset offset' := respells.offset
  cases related with
  | none => rfl
  | some related => exact congrArg List.length related.digits

end Expression

end

/-! ## Resolving -/

namespace Expression

section

variable {υ : Type} {codes : List String} {units units' : UnitTable υ} {slot : Slot}

theorem resolveName_eq_ok_iff {name : String} {unit : υ} :
    resolveName units slot name = .ok unit ↔ units.find? name = some unit := by
  rw [resolveName]
  cases units.find? name <;> simp

variable (same : ∀ {word word' unit}, Locale.Spells codes word word' →
  units.find? (String.ofList word) = some unit → units'.find? (String.ofList word') = some unit)
include same

theorem resolveName?_of_spells {word? word?' : Option (List Char)} {unit? : Option υ}
    (spells : Option.Rel (Locale.Spells codes) word? word?')
    (resolves : resolveName? units slot (word?.map String.ofList) = .ok unit?) :
    resolveName? units' slot (word?'.map String.ofList) = .ok unit? := by
  cases spells with
  | none => exact resolves
  | some spells =>
    rw [Option.map_some, resolveName?] at resolves ⊢
    cases found : resolveName units slot _ with
    | error error =>
      rw [found] at resolves
      contradiction
    | ok unit =>
      rw [found] at resolves
      rwa [resolveName_eq_ok_iff.mpr (same spells (resolveName_eq_ok_iff.mp found))]

theorem resolveOffset_of_respells {offset offset' : OffsetForm} {resolved : ResolvedOffset υ}
    (respells : offset.Respells codes offset')
    (resolves : offset.tokens.resolve units = .ok resolved) :
    offset'.tokens.resolve units' = .ok resolved := by
  obtain ⟨unit, found, rest⟩ := bind_eq_ok_iff.mp resolves
  obtain ⟨rounding, rounds, returned⟩ := bind_eq_ok_iff.mp rest
  have amount : offset'.amount = offset.amount := by
    rw [OffsetForm.amount, OffsetForm.amount, respells.isNegative, respells.digits]
  refine bind_eq_ok_iff.mpr ⟨unit, ?_, bind_eq_ok_iff.mpr ⟨rounding, ?_, ?_⟩⟩
  · exact resolveName_eq_ok_iff.mpr (same respells.unit (resolveName_eq_ok_iff.mp found))
  · exact resolveName?_of_spells same respells.rounding rounds
  · rw [← returned]
    change Except.ok (ResolvedOffset.mk offset'.amount unit rounding) = _
    rw [amount]
    rfl

/-- A respelled expression resolves to the same with a table and keywords that have the spellings. -/
theorem resolve_of_respells {keywords keywords' : List String} {form form' : Form}
    {resolved : Resolved υ}
    (sameKeywords : ∀ {word word'}, Locale.SpellsKeyword codes word word' →
      String.ofList word ∈ keywords → String.ofList word' ∈ keywords')
    (respells : form.Respells codes form')
    (resolves : form.tokens.resolve keywords units = .ok resolved) :
    form'.tokens.resolve keywords' units' = .ok resolved := by
  obtain ⟨keyword, rounding, offset⟩ := form
  obtain ⟨keyword', rounding', offset'⟩ := form'
  have related : Option.Rel (OffsetForm.Respells codes) offset offset' := respells.offset
  rw [Tokens.resolve] at resolves ⊢
  split at resolves
  case isFalse => contradiction
  case isTrue known =>
    have known' : keywords'.contains (Form.tokens ⟨keyword', rounding', offset'⟩).keyword = true :=
      List.contains_iff_mem.mpr (sameKeywords respells.keyword (List.contains_iff_mem.mp known))
    rw [if_pos known']
    -- slot by slot the same units are found
    obtain ⟨unit?, rounds, rest⟩ := bind_eq_ok_iff.mp resolves
    refine bind_eq_ok_iff.mpr ⟨unit?, resolveName?_of_spells same respells.rounding rounds, ?_⟩
    cases related with
    | none => exact rest
    | some related =>
      obtain ⟨resolvedOffset, found, returned⟩ := bind_eq_ok_iff.mp rest
      exact bind_eq_ok_iff.mpr
        ⟨resolvedOffset, resolveOffset_of_respells same related found, returned⟩

end

end Expression

/-! ## Localised parsers -/

section

variable {υ τ ζ ε : Type} [DecidableEq υ] {config config' : Config υ ζ} {codes : List String}
  {word word' : List Char}

theorem Locale.SpellsKeyword.mem_keywords (spells : SpellsKeyword codes word word')
    (localised : config.withLocales codes = .ok config')
    (known : String.ofList word ∈ config.keywords) : String.ofList word' ∈ config'.keywords := by
  obtain ⟨larger, speaks⟩ := Config.extends_of_withLocales localised
  rcases spells with rfl | ⟨code, listed, locale, named, member⟩
  · exact larger.keywords _ known
  · obtain ⟨locale', named', speaks⟩ := speaks code listed
    obtain rfl := Option.some.inj (named.symm.trans named')
    exact speaks.keywords _ member

/-- A spelling of a name has the unit that the name has without the locales. -/
theorem Locale.Spells.find?_eq {unit : υ} (spells : Spells codes word word')
    (localised : config.withLocales codes = .ok config')
    (found : config.units.find? (String.ofList word) = some unit) :
    config'.units.find? (String.ofList word') = some unit := by
  obtain ⟨larger, speaks⟩ := Config.extends_of_withLocales localised
  rcases spells with rfl | ⟨code, listed, locale, named, member⟩
  · exact larger.units _ _ found
  · obtain ⟨locale', named', speaks⟩ := speaks code listed
    obtain rfl := Option.some.inj (named.symm.trans named')
    exact speaks.spellings _ member unit found

end

namespace Parser

section

variable {υ τ ζ ε : Type} {parser parser' : Parser υ ζ} {adapter : Adapter υ τ ζ ε}
  {text text' : String} {resolved : Resolved υ}

theorem parse_eq_of_resolves
    (sameTimezone : parser'.config.timezone = parser.config.timezone)
    (resolves : parser.resolve text = (.ok resolved : Except (Failure ε) _))
    (resolves' : parser'.resolve text' = (.ok resolved : Except (Failure ε) _))
    (direction : Direction) (timezone : Option ζ) :
    parser'.parse adapter text' direction timezone = parser.parse adapter text direction timezone := by
  rw [parse, parse, dialogue_eq_evaluate resolves, dialogue_eq_evaluate resolves', context, context,
    sameTimezone]

theorem exists_form_of_resolves
    (resolves : parser.resolve text = (.ok resolved : Except (Failure ε) _)) :
    ∃ form : Form, form.Derives text ∧ form.digitCount ≤ Expression.digitLimit ∧
      form.tokens.resolve parser.config.keywords parser.config.units = .ok resolved := by
  cases read : Tokens.read text with
  | error error =>
    rw [resolve_of_readError read] at resolves
    contradiction
  | ok tokens =>
    obtain ⟨form, derives, convertible, rfl⟩ := Expression.read_eq_ok_iff.mp read
    rw [resolve_of_read read] at resolves
    exact ⟨form, derives, convertible, eq_of_mapError_eq_ok resolves⟩

variable [DecidableEq υ] {config config' : Config υ ζ} {codes : List String}

theorem resolve_of_respells (localised : config.withLocales codes = .ok config')
    (resolves : (⟨config⟩ : Parser υ ζ).resolve text = (.ok resolved : Except (Failure ε) _))
    {form form' : Form} (derives : form.Derives text) (respells : form.Respells codes form') :
    (⟨config'⟩ : Parser υ ζ).resolve (String.ofList form'.text) =
      (.ok resolved : Except (Failure ε) _) := by
  obtain ⟨_, derives₀, convertible, bound⟩ := exists_form_of_resolves resolves
  obtain rfl := derives₀.unique derives
  have derives' : form'.Derives (String.ofList form'.text) :=
    ⟨respells.wellFormed derives.wellFormed, String.toList_ofList.symm⟩
  -- the digits are the same, so they are not too many either
  have convertible' : form'.digitCount ≤ Expression.digitLimit := by
    rwa [respells.digitCount_eq]
  have bound' : form'.tokens.resolve config'.keywords config'.units = .ok resolved :=
    Expression.resolve_of_respells (fun spells found => spells.find?_eq localised found)
      (fun spells known => spells.mem_keywords localised known) respells bound
  rw [resolve_of_read (Expression.read_of_convertible derives' convertible'), bound']
  rfl

end

/-- Whatever a parser resolves, a parser with locales added gives the same steps and the same result for
it, and also for every respelling of it with the keywords and the spellings of the locales. Adding locales
never leaves a configuration without a parser. -/
theorem locale_spellings_are_synonyms {υ ζ : Type} [DecidableEq υ] {config config' : Config υ ζ}
    {codes : List String} {parser : Parser υ ζ} (created : create config = .ok parser)
    (localised : config.withLocales codes = .ok config') :
    ∃ parser', create config' = .ok parser' ∧
      ∀ (τ ε : Type) (adapter : Adapter υ τ ζ ε) (text : String) (resolved : Resolved υ),
        parser.resolve text = (.ok resolved : Except (Failure ε) _) →
        ∀ (direction : Direction) (timezone : Option ζ),
          parser'.parse adapter text direction timezone =
            parser.parse adapter text direction timezone ∧
          ∀ form form' : Form, form.Derives text → form.Respells codes form' →
            parser'.parse adapter (String.ofList form'.text) direction timezone =
              parser'.parse adapter text direction timezone := by
  have larger := (Config.extends_of_withLocales localised).1
  obtain ⟨-, -, rfl⟩ := create_eq_ok_iff.mp created
  refine ⟨⟨config'⟩, create_of_extends created larger, ?_⟩
  intro τ ε adapter text resolved resolves direction timezone
  have respelled : ∀ form form' : Form, form.Derives text → form.Respells codes form' →
      (⟨config'⟩ : Parser υ ζ).parse adapter (String.ofList form'.text) direction timezone =
        (⟨config⟩ : Parser υ ζ).parse adapter text direction timezone := by
    intro form form' derives respells
    exact parse_eq_of_resolves larger.timezone resolves
      (resolve_of_respells localised resolves derives respells) direction timezone
  -- the expression itself is one of its respellings
  have unchanged : (⟨config'⟩ : Parser υ ζ).parse adapter text direction timezone =
      (⟨config⟩ : Parser υ ζ).parse adapter text direction timezone := by
    obtain ⟨form, derives, -, -⟩ := exists_form_of_resolves resolves
    have same := respelled form form derives (.refl codes form)
    rwa [derives.text_eq, String.ofList_toList] at same
  exact ⟨unchanged, fun form form' derives respells =>
    (respelled form form' derives respells).trans unchanged.symm⟩

/-- Weeks under the code for days, and months. -/
def weeksAsDays : Config TimeUnit ZoneRef where
  units := .ofEntries [("d", .calendar .week), ("mo", .calendar .month)]
  timezone := .given Moment.hourChanges
  keywords := ["now"]

def plainForm : Form :=
  ⟨"now".toList, some "mo".toList, some ⟨true, "2".toList, "d".toList, some "d".toList⟩⟩

def mixedForm : Form :=
  ⟨"jetzt".toList, some "Monat".toList, some ⟨true, "2".toList, "дня".toList, some "Tage".toList⟩⟩

/-- With German and Russian added the expression can be written with words of both. The words for days are
weeks, since that is what the code for days is. -/
theorem german_and_russian_spellings :
    ∃ parser' : Parser TimeUnit ZoneRef,
      (weeksAsDays.withLocales ["de", "ru"] >>= create) = .ok parser' ∧
        (parser'.parse (adapterAt 1801051200) "now/mo-2d/d" .down none).result =
          .ok (shownAt 1797202800000000) ∧
        (parser'.parse (adapterAt 1801051200) "jetzt/Monat-2дня/Tage" .down none).result =
          .ok (shownAt 1797202800000000) := by
  have created : create weeksAsDays = .ok ⟨weeksAsDays⟩ := rfl
  have localised : weeksAsDays.withLocales ["de", "ru"] = .ok _ := rfl
  have resolves : (⟨weeksAsDays⟩ : Parser TimeUnit ZoneRef).resolve "now/mo-2d/d" =
      (.ok ⟨some (.calendar .month), some ⟨-2, .calendar .week, some (.calendar .week)⟩⟩ :
        Except (Failure AdapterError) _) := rfl
  have value : ((⟨weeksAsDays⟩ : Parser TimeUnit ZoneRef).parse (adapterAt 1801051200) "now/mo-2d/d"
      .down none).result = .ok (shownAt 1797202800000000) :=
    (result_parse_of_resolves resolves).trans rfl
  have derives : plainForm.Derives "now/mo-2d/d" := Expression.read?_eq_some_iff.mp rfl
  have day : Locale.Spells ["de", "ru"] "d".toList "дня".toList :=
    .inr ⟨"ru", by decide, .ru, rfl, by decide⟩
  have days : Locale.Spells ["de", "ru"] "d".toList "Tage".toList :=
    .inr ⟨"de", by decide, .de, rfl, by decide⟩
  have month : Locale.Spells ["de", "ru"] "mo".toList "Monat".toList :=
    .inr ⟨"de", by decide, .de, rfl, by decide⟩
  have respells : plainForm.Respells ["de", "ru"] mixedForm :=
    ⟨.inr ⟨"de", by decide, .de, rfl, by decide⟩, .some month, .some ⟨rfl, rfl, day, .some days⟩⟩
  have text : String.ofList mixedForm.text = "jetzt/Monat-2дня/Tage" := rfl
  obtain ⟨parser', created', meaning⟩ := locale_spellings_are_synonyms created localised
  obtain ⟨unchanged, respelled⟩ := meaning _ _ (adapterAt 1801051200) _ _ resolves .down none
  have same := respelled _ _ derives respells
  rw [text] at same
  refine ⟨parser', ?_, ?_, ?_⟩
  · rw [localised]
    exact created'
  · rw [unchanged, value]
  · rw [same, unchanged, value]

end Parser

end RelativeTime
