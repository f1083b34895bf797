import RelativeTime.Settings

/-!
# Variables of the settings

The value of a variable is that of the last assignment to its name in any case, so an assignment to another
name changes nothing, and the names of the settings differ in any case.
-/

namespace RelativeTime

theorem lower_variableName_ne {setting setting' : Setting} (different : setting ≠ setting') :
    setting.variableName.toLower ≠ setting'.variableName.toLower := by
  cases setting <;> cases setting' <;> first | contradiction | decide +kernel

namespace Settings

variable {assigned : List (String × Option String)} {name other : String}

theorem filter_of_unset (unset : ∀ entry ∈ assigned, entry.1.toLower ≠ name.toLower) :
    (assigned.filter fun entry => entry.1.toLower = name.toLower) = [] := by
  simpa [List.filter_eq_nil_iff] using unset

theorem valueOf?_of_unset (unset : ∀ entry ∈ assigned, entry.1.toLower ≠ name.toLower) :
    valueOf? assigned name = none := by
  simp [valueOf?, filter_of_unset unset]

theorem valueOf?_cons_self (unset : ∀ entry ∈ assigned, entry.1.toLower ≠ name.toLower)
    (value : Option String) : valueOf? ((name, value) :: assigned) name = value := by
  simp [valueOf?, filter_of_unset unset]

theorem valueOf?_cons_of_ne (different : other.toLower ≠ name.toLower) (value : Option String) :
    valueOf? ((other, value) :: assigned) name = valueOf? assigned name := by
  simp [valueOf?, different]

/-- The environment has the same names as variables that may be without a value. -/
theorem inherited_ne {environment : List (String × String)}
    (unset : ∀ entry ∈ environment, entry.1.toLower ≠ name.toLower) :
    ∀ entry ∈ environment.map fun (name, value) => (name, some value), entry.1.toLower ≠ name.toLower := by
  intro entry member
  obtain ⟨given, among, rfl⟩ := List.mem_map.mp member
  exact unset given among

/-- The names of a file are those of its assignments, whatever their values refer to. -/
theorem exists_assignment_of_mem_bindings {environment : List (String × String)} {text : String}
    {entry : String × Option String} (member : entry ∈ Dotenv.bindings environment text) :
    ∃ assigned ∈ Dotenv.assignments text.toList, assigned.1 = entry.1 := by
  have names (assignments bound : List (String × Option String)) :
      ∀ name ∈ (assignments.foldl (fun bound entry =>
          Bindings.bind entry.1 (entry.2.map (Dotenv.expanded environment bound)) bound) bound).map Prod.fst,
        name ∈ bound.map Prod.fst ∨ name ∈ assignments.map Prod.fst := by
    induction assignments generalizing bound with
    | nil => exact fun name member => .inl member
    | cons first rest inductionHypothesis =>
      intro name member
      obtain inBound | inRest := inductionHypothesis _ name member
      · obtain same | before := Bindings.mem_names_bind.mp inBound
        · exact .inr (same ▸ List.mem_cons_self)
        · exact .inl before
      · exact .inr (List.mem_cons_of_mem _ inRest)
  obtain none | assigned := names _ [] entry.1 (List.mem_map_of_mem member)
  · exact absurd none List.not_mem_nil
  · exact List.mem_map.mp assigned

theorem valueIn_of_unset {environment : List (String × String)} {dotenv : Option String} {setting : Setting}
    (inEnvironment : ∀ entry ∈ environment, entry.1.toLower ≠ setting.variableName.toLower)
    (inFile : ∀ text ∈ dotenv, ∀ entry ∈ Dotenv.assignments text.toList,
      entry.1.toLower ≠ setting.variableName.toLower) :
    valueIn environment dotenv setting = setting.fallback := by
  have fromFile : ∀ entry ∈ (dotenv.map (Dotenv.bindings environment)).getD [],
      entry.1.toLower ≠ setting.variableName.toLower := by
    cases dotenv with
    | none => exact nofun
    | some text =>
      intro entry member
      obtain ⟨assigned, among, same⟩ := exists_assignment_of_mem_bindings member
      exact same ▸ inFile text rfl assigned among
  simp only [valueIn, valueOf?_of_unset (inherited_ne inEnvironment), valueOf?_of_unset fromFile]
  rfl

end Settings

end RelativeTime
