/-!
# Scanning

Texts are read from the front in longest runs of characters of one kind. `run?_eq_some_iff` says
what a run is and where it stops, so that nothing about a reader depends on how it scans.
-/

namespace RelativeTime.Text

/-- A non-empty run of characters of one kind. -/
def IsRunOf (isPart : Char → Bool) (run : List Char) : Prop :=
  run ≠ [] ∧ ∀ c ∈ run, isPart c = true

instance (isPart : Char → Bool) (run : List Char) : Decidable (IsRunOf isPart run) :=
  decidable_of_iff (run ≠ [] ∧ run.all isPart = true) (by rw [List.all_eq_true, IsRunOf])

/-- A text that no run of the kind can go on into. -/
def Stops (isPart : Char → Bool) (rest : List Char) : Prop :=
  ∀ c tail, rest = c :: tail → isPart c = false

/-- The longest run at the front of a text, which must not be empty, and the rest. -/
def run? (isPart : Char → Bool) (cs : List Char) : Option (List Char × List Char) :=
  match cs.takeWhile isPart with
  | [] => none
  | c :: run => some (c :: run, cs.dropWhile isPart)

section

variable {isPart : Char → Bool} {run rest cs : List Char} {c : Char}

@[simp] theorem stops_nil : Stops isPart [] := nofun

@[simp] theorem stops_cons : Stops isPart (c :: cs) ↔ isPart c = false :=
  ⟨fun stops => stops c cs rfl, fun excluded _ _ same => (List.cons.inj same).1 ▸ excluded⟩

theorem stops_dropWhile : Stops isPart (cs.dropWhile isPart) := by
  induction cs with
  | nil => exact stops_nil
  | cons c cs inductionHypothesis =>
    cases kind : isPart c with
    | true => simpa [kind] using inductionHypothesis
    | false => simp [kind]

theorem takeWhile_append_of_stops (all : ∀ c ∈ run, isPart c = true) (stops : Stops isPart rest) :
    (run ++ rest).takeWhile isPart = run := by
  rw [List.takeWhile_append_of_pos all]
  cases rest with
  | nil => simp
  | cons c rest => simp [stops_cons.mp stops]

theorem dropWhile_append_of_stops (all : ∀ c ∈ run, isPart c = true) (stops : Stops isPart rest) :
    (run ++ rest).dropWhile isPart = rest := by
  rw [List.dropWhile_append_of_pos all]
  cases rest with
  | nil => rfl
  | cons c rest => simp [stops_cons.mp stops]

/-- Scanning takes a run off the front and stops where the run cannot go on. -/
theorem run?_eq_some_iff :
    run? isPart cs = some (run, rest) ↔ IsRunOf isPart run ∧ Stops isPart rest ∧ cs = run ++ rest := by
  constructor
  · intro scanned
    have taken : cs.takeWhile isPart = run ∧ cs.dropWhile isPart = rest ∧ run ≠ [] := by
      rw [run?] at scanned
      split at scanned
      · contradiction
      · next same =>
        obtain ⟨rfl, rfl⟩ := Prod.mk.inj (Option.some.inj scanned)
        exact ⟨same, rfl, List.cons_ne_nil _ _⟩
    obtain ⟨rfl, rfl, nonempty⟩ := taken
    exact ⟨⟨nonempty, List.all_eq_true.mp List.all_takeWhile⟩, stops_dropWhile,
      List.takeWhile_append_dropWhile.symm⟩
  · rintro ⟨⟨nonempty, all⟩, stops, rfl⟩
    obtain ⟨c, tail, rfl⟩ := List.exists_cons_of_ne_nil nonempty
    rw [run?, takeWhile_append_of_stops all stops, dropWhile_append_of_stops all stops]

end

end RelativeTime.Text
