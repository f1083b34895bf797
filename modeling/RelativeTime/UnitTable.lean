import RelativeTime.Bindings

/-!
# Unit tables

A unit table binds names to units in the order in which the names were first bound. Two bindings are
the same when they are equal as units, so several names can stand for one unit.
-/

namespace RelativeTime

/-- Names bound to units, each name once, in order of first binding. -/
structure UnitTable (υ : Type) where
  entries : List (String × υ)
  names_nodup : (entries.map Prod.fst).Nodup

namespace UnitTable

variable {υ : Type}

def empty : UnitTable υ := ⟨[], List.nodup_nil⟩

def names (table : UnitTable υ) : List String :=
  table.entries.map Prod.fst

def find? (table : UnitTable υ) (name : String) : Option υ :=
  table.entries.lookup name

def isEmpty (table : UnitTable υ) : Bool :=
  table.entries.isEmpty

def insert (table : UnitTable υ) (name : String) (unit : υ) : UnitTable υ :=
  ⟨Bindings.bind name unit table.entries, Bindings.nodup_bind table.names_nodup⟩

def erase (table : UnitTable υ) (name : String) : UnitTable υ :=
  ⟨table.entries.filter (·.1 ≠ name),
    (List.filter_sublist.map Prod.fst).nodup table.names_nodup⟩

@[simp] theorem find?_insert (table : UnitTable υ) (name other : String) (unit : υ) :
    (table.insert name unit).find? other =
      if other = name then some unit else table.find? other :=
  Bindings.lookup_bind name unit table.entries other

theorem insert_eq_self {table : UnitTable υ} {name : String} {unit : υ}
    (found : table.find? name = some unit) : table.insert name unit = table := by
  obtain ⟨entries, nodup⟩ := table
  rw [insert, UnitTable.mk.injEq]
  exact Bindings.bind_eq_self found

/-- The table of the entries, where the last binding of a name counts. -/
def ofEntries (entries : List (String × υ)) : UnitTable υ :=
  entries.foldl (fun table entry => table.insert entry.1 entry.2) empty

end UnitTable

end RelativeTime
