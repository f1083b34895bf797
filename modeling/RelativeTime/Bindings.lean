/-!
# Ordered bindings

A list of pairs in which every name stands once. Binding a name anew keeps its place, and a new name
goes to the end.
-/

namespace RelativeTime.Bindings

variable {α : Type}

/-- The pairs with `name` bound to `value`: in its place if it is there, at the end otherwise. -/
def bind (name : String) (value : α) : List (String × α) → List (String × α)
  | [] => [(name, value)]
  | entry :: rest =>
    if entry.1 = name then (name, value) :: rest else entry :: bind name value rest

theorem mem_names_bind {name : String} {value : α} {entries : List (String × α)} {other : String} :
    other ∈ (bind name value entries).map Prod.fst ↔
      other = name ∨ other ∈ entries.map Prod.fst := by
  induction entries with
  | nil => simp [bind]
  | cons entry rest ih => grind [bind]

theorem nodup_bind {name : String} {value : α} {entries : List (String × α)}
    (nodup : (entries.map Prod.fst).Nodup) : ((bind name value entries).map Prod.fst).Nodup := by
  induction entries with
  | nil => simp [bind]
  | cons entry rest ih =>
    obtain ⟨fresh, nodup⟩ := List.nodup_cons.mp nodup
    rw [bind]
    split
    · next same => exact List.nodup_cons.mpr ⟨same ▸ fresh, nodup⟩
    · next different =>
      refine List.nodup_cons.mpr ⟨fun member => ?_, ih nodup⟩
      rcases mem_names_bind.mp member with same | member
      · exact different same
      · exact fresh member

/-- Binding a name changes what that name stands for and nothing else. -/
theorem lookup_bind (name : String) (value : α) (entries : List (String × α)) (other : String) :
    (bind name value entries).lookup other =
      if other = name then some value else entries.lookup other := by
  induction entries with
  | nil => grind [bind]
  | cons entry rest ih => grind [bind]

/-- Binding a name to what it stands for already changes nothing, not even the order. -/
theorem bind_eq_self {name : String} {value : α} {entries : List (String × α)}
    (found : entries.lookup name = some value) : bind name value entries = entries := by
  induction entries with
  | nil => contradiction
  | cons entry rest inductionHypothesis =>
    obtain ⟨first, firstValue⟩ := entry
    rw [bind]
    by_cases same : first = name
    · subst same
      rw [List.lookup_cons_self] at found
      obtain rfl := Option.some.inj found
      exact if_pos rfl
    · rw [List.lookup_cons, beq_eq_false_iff_ne.mpr (Ne.symm same)] at found
      rw [if_neg same, inductionHypothesis found]

/-- The pairs bound in order, so that the last value of a name counts. -/
def ofList (entries : List (String × α)) : List (String × α) :=
  entries.foldl (fun bound entry => bind entry.1 entry.2 bound) []

end RelativeTime.Bindings
