import RelativeTime.Locale
import RelativeTime.Parser
import RelativeTime.TimeError

/-!
# Extending configurations

Aliases and locales add names. A name that a table has already is never bound to another unit: an alias
under such a name is refused unless it stands for that very unit. So a table with aliases added has all
names of the table before with the same units (`UnitTable.Extends`), and it has the aliases whose targets
are there.
-/

namespace RelativeTime

variable {υ ζ : Type}

/-! ## Folds that may fail -/

section

variable {σ α ε : Type} {f : σ → α → Except ε σ} {s s' : σ} {list : List α}

theorem holds_of_foldlM (Holds : σ → Prop) (step : ∀ {s a s'}, Holds s → f s a = .ok s' → Holds s')
    (holds : Holds s) (folded : list.foldlM f s = .ok s') : Holds s' := by
  induction list generalizing s with
  | nil =>
    obtain rfl := Except.ok.inj folded
    exact holds
  | cons a list inductionHypothesis =>
    rw [List.foldlM_cons] at folded
    obtain ⟨next, stepped, rest⟩ := bind_eq_ok_iff.mp folded
    exact inductionHypothesis (step holds stepped) rest

/-- What is reached for an element when it is its turn is not undone by the elements after it. -/
theorem reached_of_foldlM (Holds : σ → Prop) (Reached : α → σ → Prop)
    (step : ∀ {s a s'}, Holds s → f s a = .ok s' → Holds s' ∧ Reached a s')
    (kept : ∀ {s a b s'}, Reached a s → f s b = .ok s' → Reached a s') (holds : Holds s)
    (folded : list.foldlM f s = .ok s') : ∀ a ∈ list, Reached a s' := by
  induction list generalizing s with
  | nil => exact nofun
  | cons a list inductionHypothesis =>
    rw [List.foldlM_cons] at folded
    obtain ⟨next, stepped, rest⟩ := bind_eq_ok_iff.mp folded
    obtain ⟨holdsNext, reached⟩ := step holds stepped
    exact List.forall_mem_cons.mpr
      ⟨holds_of_foldlM (Reached a) kept reached rest, inductionHypothesis holdsNext rest⟩

end

/-! ## Tables -/

namespace UnitTable

variable {table table' base targets : UnitTable υ}

/-- The names of the other table stand for the same units in this one. -/
def Extends (table base : UnitTable υ) : Prop :=
  ∀ name unit, base.find? name = some unit → table.find? name = some unit

/-- The alias has the unit of its target, if the target is a name of the other table. -/
def HasAlias (table targets : UnitTable υ) (entry : String × String) : Prop :=
  ∀ unit, targets.find? entry.2 = some unit → table.find? entry.1 = some unit

theorem Extends.refl (table : UnitTable υ) : table.Extends table :=
  fun _ _ found => found

theorem Extends.trans (second : table'.Extends table) (first : table.Extends base) :
    table'.Extends base :=
  fun name unit found => second name unit (first name unit found)

theorem HasAlias.of_extends {entry : String × String} (bound : table.HasAlias targets entry)
    (larger : table'.Extends table) : table'.HasAlias targets entry :=
  fun unit found => larger _ unit (bound unit found)

theorem isEmpty_eq_false_iff : table.isEmpty = false ↔ ∃ name unit, table.find? name = some unit := by
  obtain ⟨entries, nodup⟩ := table
  cases entries with
  | nil => simp [isEmpty, find?]
  | cons entry rest =>
    obtain ⟨name, unit⟩ := entry
    exact iff_of_true rfl ⟨name, unit, List.lookup_cons_self⟩

theorem Extends.isEmpty_eq_false (larger : table.Extends base) (filled : base.isEmpty = false) :
    table.isEmpty = false := by
  obtain ⟨name, unit, found⟩ := isEmpty_eq_false_iff.mp filled
  exact isEmpty_eq_false_iff.mpr ⟨name, unit, larger name unit found⟩

/-- A name can be bound to the unit that it stands for already, and any unit if it stands for none. -/
theorem extends_insert {name : String} {unit : υ}
    (unchanged : ∀ existing, table.find? name = some existing → existing = unit) :
    (table.insert name unit).Extends table := by
  intro other existing found
  rw [find?_insert]
  split
  · next same =>
    subst same
    rw [unchanged existing found]
  · exact found

variable [DecidableEq υ]

theorem extends_of_addAlias {entry : String × String}
    (added : addAlias targets table entry = .ok table') :
    table'.Extends table ∧ table'.HasAlias targets entry := by
  rw [addAlias] at added
  split at added
  · next absent =>
    -- without a target the table is left as it is
    obtain rfl := Except.ok.inj added
    refine ⟨.refl table, fun unit found => ?_⟩
    rw [absent] at found
    contradiction
  · next unit target =>
    have bound : (table.insert entry.1 unit).HasAlias targets entry := by
      intro unit' found
      rw [find?_insert, if_pos rfl, ← target, found]
    split at added
    · next fresh =>
      obtain rfl := Except.ok.inj added
      refine ⟨extends_insert fun existing found => ?_, bound⟩
      rw [fresh] at found
      contradiction
    · next existing taken =>
      -- the name is taken, and adding the alias succeeds only if it is by the same unit
      split at added
      · next same =>
        obtain rfl := Except.ok.inj added
        refine ⟨extends_insert fun existing' found => ?_, bound⟩
        rw [taken] at found
        exact (Option.some.inj found).symm.trans same
      · contradiction

/-- A table with aliases has what the table without them has, and the aliases of what is there. -/
theorem extends_of_extend {aliases : List (String × String)}
    (extended : table.extend aliases = .ok table') :
    table'.Extends table ∧ ∀ entry ∈ aliases, table'.HasAlias table entry := by
  constructor
  · exact holds_of_foldlM (·.Extends table)
      (fun larger added => (extends_of_addAlias added).1.trans larger) (.refl table) extended
  · refine reached_of_foldlM (fun _ => True) (fun entry table' => table'.HasAlias table entry) ?_ ?_
      trivial extended
    · exact fun _ added => ⟨trivial, (extends_of_addAlias added).2⟩
    · exact fun bound added => bound.of_extends (extends_of_addAlias added).1

/-! ## Exactly the aliases -/

/-- The alias stands for another unit in the table than its target does in the other one. -/
def Clashes (table targets : UnitTable υ) (entry : String × String) : Prop :=
  ∃ unit existing, targets.find? entry.2 = some unit ∧ table.find? entry.1 = some existing ∧
    existing ≠ unit

theorem addAlias_eq_ok_iff {entry : String × String} :
    (∃ table', addAlias targets table entry = .ok table') ↔ ¬ table.Clashes targets entry := by
  rw [addAlias, Clashes]
  cases targets.find? entry.2 with
  | none => simp
  | some unit =>
    cases table.find? entry.1 with
    | none => simp
    | some existing =>
      by_cases same : existing = unit
      · simp [same]
      · simp [same]

theorem find?_of_addAlias {entry : String × String} {name : String} {unit : υ}
    (added : addAlias targets table entry = .ok table') :
    table'.find? name = some unit ↔
      table.find? name = some unit ∨ entry.1 = name ∧ targets.find? entry.2 = some unit := by
  constructor
  · intro found
    rw [addAlias] at added
    split at added
    · obtain rfl := Except.ok.inj added
      exact .inl found
    · next target =>
      -- where the table has changed, it has the unit of the target under the alias
      have inserted : ∀ {unit'}, (table.insert entry.1 unit').find? name = some unit →
          table.find? name = some unit ∨ entry.1 = name ∧ some unit' = some unit := by
        intro unit' found
        rw [find?_insert] at found
        split at found
        · next same => exact .inr ⟨same.symm, found⟩
        · exact .inl found
      rw [target]
      split at added
      · obtain rfl := Except.ok.inj added
        exact inserted found
      · split at added
        · obtain rfl := Except.ok.inj added
          exact inserted found
        · contradiction
  · obtain ⟨larger, bound⟩ := extends_of_addAlias added
    rintro (found | ⟨rfl, found⟩)
    · exact larger name unit found
    · exact bound unit found

/-- An alias that is there already is not added again. -/
theorem addAlias_eq_self {entry : String × String} (bound : table.HasAlias targets entry) :
    addAlias targets table entry = .ok table := by
  rw [addAlias]
  cases target : targets.find? entry.2 with
  | none => rfl
  | some unit =>
    have found := bound unit target
    simp only [found, if_true, insert_eq_self found]

theorem extend_eq_self {aliases : List (String × String)}
    (bound : ∀ entry ∈ aliases, table.HasAlias table entry) : table.extend aliases = .ok table := by
  rw [extend]
  induction aliases with
  | nil => rfl
  | cons entry rest inductionHypothesis =>
    obtain ⟨first, others⟩ := List.forall_mem_cons.mp bound
    rw [List.foldlM_cons, addAlias_eq_self first]
    exact inductionHypothesis others

/-- Adding aliases in a row binds them and nothing else. -/
theorem find?_of_foldlM_addAlias {aliases : List (String × String)} {name : String} {unit : υ}
    (added : aliases.foldlM (addAlias targets) table = .ok table') :
    table'.find? name = some unit ↔ table.find? name = some unit ∨
      ∃ entry ∈ aliases, entry.1 = name ∧ targets.find? entry.2 = some unit := by
  induction aliases generalizing table with
  | nil =>
    obtain rfl := Except.ok.inj added
    simp
  | cons entry rest inductionHypothesis =>
    rw [List.foldlM_cons] at added
    obtain ⟨next, first, others⟩ := bind_eq_ok_iff.mp added
    simp only [inductionHypothesis others, find?_of_addAlias first, or_assoc, List.mem_cons,
      exists_eq_or_imp]

/-- An alias does not come to clash by another one being added, unless it is the same with another target. -/
theorem clashes_iff_of_addAlias {entry other : String × String}
    (added : addAlias targets table entry = .ok table') (functional : entry.1 = other.1 → entry.2 = other.2) :
    table'.Clashes targets other ↔ table.Clashes targets other := by
  constructor
  · rintro ⟨unit, existing, target, found, different⟩
    rcases (find?_of_addAlias added).mp found with found | ⟨same, target'⟩
    · exact ⟨unit, existing, target, found, different⟩
    · rw [functional same, target] at target'
      exact absurd (Option.some.inj target').symm different
  · rintro ⟨unit, existing, target, found, different⟩
    exact ⟨unit, existing, target, (extends_of_addAlias added).1 _ _ found, different⟩

/-- Aliases of which none is given two targets can be added in a row if none of them clashes with the table
at the start: those before it never are in its way. -/
theorem foldlM_addAlias_eq_ok_iff {aliases : List (String × String)}
    (functional : ∀ entry ∈ aliases, ∀ other ∈ aliases, entry.1 = other.1 → entry.2 = other.2) :
    (∃ table', aliases.foldlM (addAlias targets) table = .ok table') ↔
      ∀ entry ∈ aliases, ¬ table.Clashes targets entry := by
  induction aliases generalizing table with
  | nil => exact iff_of_true ⟨table, rfl⟩ nofun
  | cons entry rest inductionHypothesis =>
    have functionalRest : ∀ entry ∈ rest, ∀ other ∈ rest, entry.1 = other.1 → entry.2 = other.2 :=
      fun one memberOne other memberOther =>
        functional one (List.mem_cons_of_mem _ memberOne) other (List.mem_cons_of_mem _ memberOther)
    have unchanged : ∀ {next}, addAlias targets table entry = .ok next →
        ∀ other ∈ rest, (next.Clashes targets other ↔ table.Clashes targets other) :=
      fun added other member => clashes_iff_of_addAlias added
        (functional entry List.mem_cons_self other (List.mem_cons_of_mem _ member))
    rw [List.forall_mem_cons, ← addAlias_eq_ok_iff]
    constructor
    · rintro ⟨last, added⟩
      rw [List.foldlM_cons] at added
      obtain ⟨next, first, others⟩ := bind_eq_ok_iff.mp added
      refine ⟨⟨next, first⟩, fun other member clashes => ?_⟩
      exact (inductionHypothesis functionalRest).mp ⟨last, others⟩ other member
        ((unchanged first other member).mpr clashes)
    · rintro ⟨⟨next, first⟩, free⟩
      have ⟨last, others⟩ := (inductionHypothesis functionalRest).mpr fun other member clashes =>
        free other member ((unchanged first other member).mp clashes)
      refine ⟨last, ?_⟩
      rw [List.foldlM_cons]
      exact bind_eq_ok_iff.mpr ⟨next, first, others⟩

end UnitTable

/-! ## Configurations -/

/-- The names of the other configuration are accepted in this one and mean the same. -/
structure Config.Extends (config base : Config υ ζ) : Prop where
  units : config.units.Extends base.units
  keywords : ∀ keyword ∈ base.keywords, keyword ∈ config.keywords
  timezone : config.timezone = base.timezone

/-- The configuration accepts the keywords of the locale, and its spellings for codes of the other
configuration mean what the codes mean there. -/
structure Config.Speaks (config : Config υ ζ) (locale : Locale) (base : Config υ ζ) : Prop where
  keywords : ∀ keyword ∈ locale.keywords, keyword ∈ config.keywords
  spellings : ∀ entry ∈ locale.aliases, config.units.HasAlias base.units entry

namespace Config

variable {config config' base : Config υ ζ} {locale : Locale}

theorem Extends.refl (config : Config υ ζ) : config.Extends config :=
  ⟨.refl config.units, fun _ member => member, rfl⟩

theorem Extends.trans (second : config'.Extends config) (first : config.Extends base) :
    config'.Extends base where
  units := second.units.trans first.units
  keywords keyword member := second.keywords keyword (first.keywords keyword member)
  timezone := second.timezone.trans first.timezone

theorem Speaks.of_extends (speaks : config.Speaks locale base) (larger : config'.Extends config) :
    config'.Speaks locale base where
  keywords keyword member := larger.keywords keyword (speaks.keywords keyword member)
  spellings entry member := (speaks.spellings entry member).of_extends larger.units

theorem Speaks.of_base (speaks : config'.Speaks locale config) (larger : config.Extends base) :
    config'.Speaks locale base where
  keywords := speaks.keywords
  spellings entry member unit found := speaks.spellings entry member unit (larger.units _ _ found)

variable [DecidableEq υ]

theorem extends_of_withLocale (localised : config.withLocale locale = .ok config') :
    config'.Extends config ∧ config'.Speaks locale config := by
  obtain ⟨units, extended, returned⟩ := bind_eq_ok_iff.mp localised
  obtain rfl := Except.ok.inj returned
  obtain ⟨larger, aliases⟩ := UnitTable.extends_of_extend extended
  refine ⟨⟨larger, fun keyword member => List.mem_append_left _ member, rfl⟩, ?_, aliases⟩
  intro keyword member
  -- a keyword that is known already is not added again
  by_cases known : keyword ∈ config.keywords
  · exact List.mem_append_left _ known
  · exact List.mem_append_right _ (List.mem_filter.mpr ⟨member, by simpa using known⟩)

theorem extends_of_withLocaleCode {code : String}
    (localised : config.withLocaleCode code = .ok config') :
    config'.Extends config ∧
      ∃ locale, Locale.ofCode? code = some locale ∧ config'.Speaks locale config := by
  rw [withLocaleCode] at localised
  split at localised
  · next locale named =>
    obtain ⟨larger, speaks⟩ := extends_of_withLocale localised
    exact ⟨larger, locale, named, speaks⟩
  · contradiction

/-- A configuration with locales accepts what the one without them accepts, and what the locales say. -/
theorem extends_of_withLocales {codes : List String}
    (localised : base.withLocales codes = .ok config) :
    config.Extends base ∧ ∀ code ∈ codes, ∃ locale, Locale.ofCode? code = some locale ∧
      config.Speaks locale base := by
  have step {s s' : Config υ ζ} {code : String} (larger : s.Extends base)
      (added : s.withLocaleCode code = .ok s') : s'.Extends base ∧
        ∃ locale, Locale.ofCode? code = some locale ∧ s'.Speaks locale base := by
    obtain ⟨next, locale, named, speaks⟩ := extends_of_withLocaleCode added
    exact ⟨next.trans larger, locale, named, speaks.of_base larger⟩
  constructor
  · exact holds_of_foldlM (·.Extends base) (fun larger added => (step larger added).1) (.refl base)
      localised
  · refine reached_of_foldlM (·.Extends base) _ step ?_ (.refl base) localised
    rintro s code code' s' ⟨locale, named, speaks⟩ added
    exact ⟨locale, named, speaks.of_extends (extends_of_withLocaleCode added).1⟩

end Config

/-! ## Parsers -/

namespace Parser

variable {config config' : Config υ ζ} {parser : Parser υ ζ}

theorem create_eq_ok_iff : create config = .ok parser ↔
    config.keywords ≠ [] ∧ config.units.isEmpty = false ∧ parser = ⟨config⟩ := by
  rw [create, ← List.isEmpty_eq_false_iff]
  cases config.keywords.isEmpty with
  | true => simp
  | false =>
    cases config.units.isEmpty with
    | true => simp
    | false => simp [eq_comm]

theorem create_of_extends (created : create config = .ok parser) (larger : config'.Extends config) :
    create config' = .ok ⟨config'⟩ := by
  obtain ⟨keywords, units, rfl⟩ := create_eq_ok_iff.mp created
  obtain ⟨keyword, member⟩ := List.exists_mem_of_ne_nil _ keywords
  exact create_eq_ok_iff.mpr ⟨List.ne_nil_of_mem (larger.keywords keyword member),
    larger.units.isEmpty_eq_false units, rfl⟩

end Parser

end RelativeTime
