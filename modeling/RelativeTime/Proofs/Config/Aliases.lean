import Mathlib.Data.List.Nodup
import RelativeTime.Proofs.Session.Isolation

/-!
# Adding aliases to a table

Aliases find their targets in the table as it was, and clash with the table as it has become. That it has
grown in between is of no matter: what an alias added before has bound is either under another name or the
very unit in question. So all that is said of adding aliases is about the table at the start and the set of
aliases, in whatever order they come.
-/

namespace RelativeTime

variable {υ ζ : Type}

namespace UnitTable

variable {table targets : UnitTable υ} {aliases aliases' : List (String × String)}

/-- In a map of aliases each has one target. -/
theorem eq_of_names_nodup (distinct : (aliases.map Prod.fst).Nodup) :
    ∀ entry ∈ aliases, ∀ other ∈ aliases, entry.1 = other.1 → entry.2 = other.2 :=
  fun _ member _ member' same => congrArg Prod.snd (List.inj_on_of_nodup_map distinct member member' same)

variable [DecidableEq υ]

/-! ## Refusals -/

theorem eq_of_addAlias_eq_error {entry : String × String} {error : ConfigError}
    (failed : addAlias targets table entry = .error error) : error = .conflictingAlias entry.1 := by
  rw [addAlias] at failed
  split at failed
  · contradiction
  · split at failed
    · contradiction
    · split at failed
      · contradiction
      · exact (Except.error.inj failed).symm

/-- What is refused is an alias that clashes with the table at the start, though others were added since. -/
theorem exists_clash_of_foldlM_addAlias {error : ConfigError}
    (functional : ∀ entry ∈ aliases, ∀ other ∈ aliases, entry.1 = other.1 → entry.2 = other.2)
    (failed : aliases.foldlM (addAlias targets) table = .error error) :
    ∃ entry ∈ aliases, table.Clashes targets entry ∧ error = .conflictingAlias entry.1 := by
  induction aliases generalizing table with
  | nil => contradiction
  | cons entry rest inductionHypothesis =>
    rw [List.foldlM_cons] at failed
    cases first : addAlias targets table entry with
    | error error' =>
      rw [first] at failed
      obtain rfl := Except.error.inj failed
      have refused : ¬ ∃ next, addAlias targets table entry = .ok next := by
        rintro ⟨next, added⟩
        cases first.symm.trans added
      have clashes := Classical.not_not.mp (mt addAlias_eq_ok_iff.mpr refused)
      exact ⟨entry, List.mem_cons_self, clashes, eq_of_addAlias_eq_error first⟩
    | ok next =>
      rw [first] at failed
      obtain ⟨other, member, clashes, refused⟩ := inductionHypothesis
        (fun one memberOne two memberTwo =>
          functional one (List.mem_cons_of_mem _ memberOne) two (List.mem_cons_of_mem _ memberTwo)) failed
      have member' := List.mem_cons_of_mem entry member
      -- what clashes with the table that has grown clashes with the one before it
      exact ⟨other, member', (clashes_iff_of_addAlias first
        (functional entry List.mem_cons_self other member')).mp clashes, refused⟩

theorem extend_eq_error_iff (distinct : (aliases.map Prod.fst).Nodup) :
    (∃ error, table.extend aliases = .error error) ↔ ∃ entry ∈ aliases, table.Clashes table entry := by
  have failed : (∃ error, table.extend aliases = .error error) ↔
      ¬ ∃ extended, table.extend aliases = .ok extended := by
    cases table.extend aliases <;> simp
  rw [failed, extend, foldlM_addAlias_eq_ok_iff (eq_of_names_nodup distinct)]
  simp only [Classical.not_forall, Classical.not_not, exists_prop]

/-! ## Orders -/

/-- Tables with the same aliases added bind the same names, whatever the order. -/
theorem find?_extend_congr {extended extended' : UnitTable υ}
    (same : ∀ entry, entry ∈ aliases ↔ entry ∈ aliases')
    (added : table.extend aliases = .ok extended) (added' : table.extend aliases' = .ok extended')
    (name : String) : extended.find? name = extended'.find? name := by
  refine Option.ext fun unit => ?_
  rw [find?_of_foldlM_addAlias added, find?_of_foldlM_addAlias added']
  simp only [same]

end UnitTable

/-! ## The table that is extended -/

/-- A session that adds aliases has a table of its own afterwards. What was handed over is left as it is,
and what becomes of that later does not show in the new table. -/
theorem Session.extend_of_reconfigure [DecidableEq υ] {session next : Session υ ζ}
    {aliases : List (String × String)} (changed : session.reconfigure (.aliases aliases) = .ok next) :
    session.parser.config.units.extend aliases = .ok next.parser.config.units ∧
      next.handedUnits = session.handedUnits ∧
      ∀ mutations, (next.mutateAll mutations).1.parser.config.units = next.parser.config.units := by
  obtain ⟨config, reconfigured, rebuilt⟩ := bind_eq_ok_iff.mp changed
  obtain ⟨units, extended, returned⟩ := bind_eq_ok_iff.mp reconfigured
  obtain rfl := Except.ok.inj returned
  obtain ⟨parser, created, returned⟩ := bind_eq_ok_iff.mp rebuilt
  obtain rfl := Except.ok.inj returned
  obtain ⟨-, -, rfl⟩ := Parser.create_eq_ok_iff.mp created
  refine ⟨extended, rfl, fun mutations => ?_⟩
  rw [parser, parser, config_mutateAll]
  rfl

namespace UnitTable

/-- Adding a map of aliases to a table is refused exactly if the target of an alias is in the table and
the alias stands for another unit there, and the error names such an alias. Otherwise the new table binds
the names of the table to their units, the aliases with a target in the table to its unit, and no other
name. Another order of the aliases is refused alike and binds alike. The table itself is not changed by
it, and a later change of it does not show in the new one. -/
theorem extension_is_conservative [DecidableEq υ] (table : UnitTable υ)
    {aliases : List (String × String)} (distinct : (aliases.map Prod.fst).Nodup) :
    ((∃ error, table.extend aliases = .error error) ↔
      ∃ entry ∈ aliases, ∃ unit existing, table.find? entry.2 = some unit ∧
        table.find? entry.1 = some existing ∧ existing ≠ unit) ∧
    (∀ error, table.extend aliases = .error error → ∃ entry ∈ aliases,
      table.Clashes table entry ∧ error = .conflictingAlias entry.1) ∧
    (∀ extended, table.extend aliases = .ok extended → ∀ name unit,
      extended.find? name = some unit ↔ table.find? name = some unit ∨
        ∃ entry ∈ aliases, entry.1 = name ∧ table.find? entry.2 = some unit) ∧
    (∀ aliases' : List (String × String), aliases'.Perm aliases →
      ((∃ error, table.extend aliases' = .error error) ↔ ∃ error, table.extend aliases = .error error) ∧
      ∀ extended extended', table.extend aliases = .ok extended → table.extend aliases' = .ok extended' →
        ∀ name, extended'.find? name = extended.find? name) ∧
    (∀ session next : Session υ ζ, session.parser.config.units = table →
      session.reconfigure (.aliases aliases) = .ok next →
        table.extend aliases = .ok next.parser.config.units ∧
        next.handedUnits = session.handedUnits ∧
        ∀ mutations, (next.mutateAll mutations).1.parser.config.units = next.parser.config.units) := by
  refine ⟨extend_eq_error_iff distinct, fun error failed => ?_, fun extended added name unit => ?_,
    fun aliases' reordered => ⟨?_, fun extended extended' added added' name => ?_⟩,
    fun session next current changed => ?_⟩
  · exact exists_clash_of_foldlM_addAlias (eq_of_names_nodup distinct) failed
  · exact find?_of_foldlM_addAlias added
  · have distinct' : (aliases'.map Prod.fst).Nodup := (reordered.map Prod.fst).nodup_iff.mpr distinct
    simp only [extend_eq_error_iff distinct, extend_eq_error_iff distinct', reordered.mem_iff]
  · exact find?_extend_congr (fun _ => reordered.mem_iff) added' added name
  · subst current
    exact Session.extend_of_reconfigure changed

/-- Days under two names and weeks under one. -/
def daysAndWeeks : UnitTable Char :=
  .ofEntries [("d", 'd'), ("day", 'd'), ("w", 'w')]

/-- An alias of an alias, one of a unit, two of names that stand for the same unit already, and one of a unit
that is not there. -/
def tangledAliases : List (String × String) :=
  [("Tage", "Tag"), ("Tag", "d"), ("d", "day"), ("w", "w"), ("mes", "mo")]

/-- Only `Tag` is new, even where it is added before `Tage` is. A code for days cannot become one for weeks. -/
theorem tangled_aliases_in_both_orders :
    (tangledAliases.map Prod.fst).Nodup ∧
      ∃ extended extended', daysAndWeeks.extend tangledAliases = .ok extended ∧
        daysAndWeeks.extend tangledAliases.reverse = .ok extended' ∧
        extended.find? "Tag" = some 'd' ∧ extended.find? "Tage" = none ∧
        (∀ name, extended'.find? name = extended.find? name) ∧
        ([("Tag", "d"), ("d", "w")].map Prod.fst).Nodup ∧
        ∃ error, daysAndWeeks.extend [("Tag", "d"), ("d", "w")] = .error error := by
  have distinct : (tangledAliases.map Prod.fst).Nodup := by decide
  have distinct' : ([("Tag", "d"), ("d", "w")].map Prod.fst).Nodup := by decide
  have added : daysAndWeeks.extend tangledAliases = .ok _ := rfl
  have added' : daysAndWeeks.extend tangledAliases.reverse = .ok _ := rfl
  obtain ⟨-, -, bound, orders, -⟩ := @extension_is_conservative Char Unit _ daysAndWeeks _ distinct
  obtain ⟨-, sameNames⟩ := orders _ (List.reverse_perm _)
  obtain ⟨refused, -⟩ := @extension_is_conservative Char Unit _ daysAndWeeks _ distinct'
  exact ⟨distinct, _, _, added, added', (bound _ added "Tag" 'd').mpr (.inr ⟨("Tag", "d"), by decide, rfl, rfl⟩),
    rfl, sameNames _ _ added added', distinct',
    refused.mpr ⟨("d", "w"), by decide, 'w', 'd', rfl, rfl, by decide⟩⟩

end UnitTable

end RelativeTime
