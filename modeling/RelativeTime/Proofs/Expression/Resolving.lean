import RelativeTime.Expression.Resolved

/-!
# Resolving names every slot

Resolving succeeds exactly if every name of an expression is known where it stands, and then nothing
of the expression is lost: the same slots are there, each with the unit that the table has for its
name, and the amount is as it was. Otherwise the error is about the leftmost unknown name.
-/

namespace RelativeTime

namespace Expression

variable {υ : Type}

/-! ## Names and their slots -/

/-- The names of an offset with their slots, from left to right. -/
def OffsetTokens.names (offset : OffsetTokens) : List (Slot × String) :=
  (.offset, offset.unit) :: offset.rounding.toList.map (.finalRounding, ·)

/-- The names of an expression with their slots, from left to right. -/
def Tokens.names (tokens : Tokens) : List (Slot × String) :=
  (.nowKeyword, tokens.keyword) :: (tokens.rounding.toList.map (.nowRounding, ·) ++
    tokens.offset.elim [] OffsetTokens.names)

/-- A name is known in the slot of the keyword if it is a keyword, and in any other slot if the table
has a unit for it. -/
def Known (keywords : List String) (units : UnitTable υ) : Slot × String → Prop
  | (.nowKeyword, name) => name ∈ keywords
  | (.nowRounding, name) | (.offset, name) | (.finalRounding, name) =>
    ∃ unit, units.find? name = some unit

/-- The name in a slot is not known, and every name to the left of it is. -/
def LeftmostUnknown (keywords : List String) (units : UnitTable υ) (names : List (Slot × String))
    (slot : Slot) (name : String) : Prop :=
  ∃ left right, names = left ++ (slot, name) :: right ∧
    (∀ entry ∈ left, Known keywords units entry) ∧ ¬ Known keywords units (slot, name)

/-- The resolved expression has the slots of the tokens, each with the unit of its name, and the
amount of the tokens. -/
structure Binds (units : UnitTable υ) (tokens : Tokens) (resolved : Resolved υ) : Prop where
  rounding : tokens.rounding.map units.find? = resolved.rounding.map some
  amount : tokens.offset.map (·.amount) = resolved.offset.map (·.amount)
  unit : tokens.offset.map (units.find? ·.unit) = resolved.offset.map (some ·.unit)
  finalRounding : tokens.finalRounding.map units.find? = resolved.finalRounding.map some

variable {keywords : List String} {units : UnitTable υ} {names more : List (Slot × String)}
  {slot slot' : Slot} {name name' : String}

/-! ## The leftmost unknown name -/

theorem LeftmostUnknown.append (leftmost : LeftmostUnknown keywords units names slot name) :
    LeftmostUnknown keywords units (names ++ more) slot name := by
  obtain ⟨left, right, rfl, known, unknown⟩ := leftmost
  exact ⟨left, right ++ more, by simp, known, unknown⟩

theorem LeftmostUnknown.after (allKnown : ∀ entry ∈ names, Known keywords units entry)
    (leftmost : LeftmostUnknown keywords units more slot name) :
    LeftmostUnknown keywords units (names ++ more) slot name := by
  obtain ⟨left, right, rfl, known, unknown⟩ := leftmost
  exact ⟨names ++ left, right, by simp, List.forall_mem_append.mpr ⟨allKnown, known⟩, unknown⟩

theorem LeftmostUnknown.exists_unknown (leftmost : LeftmostUnknown keywords units names slot name) :
    ∃ entry ∈ names, ¬ Known keywords units entry := by
  obtain ⟨left, right, rfl, -, unknown⟩ := leftmost
  exact ⟨(slot, name), by simp, unknown⟩

/-- Only one unknown name has nothing unknown to its left. -/
theorem LeftmostUnknown.unique (first : LeftmostUnknown keywords units names slot name)
    (second : LeftmostUnknown keywords units names slot' name') : slot = slot' ∧ name = name' := by
  obtain ⟨left, right, rfl, known, unknown⟩ := first
  obtain ⟨left', right', same, known', unknown'⟩ := second
  -- the lists to the left of the two names can only end together: the shorter would end at an
  -- unknown name, which the longer has among its known ones
  induction left generalizing left' with
  | nil =>
    cases left' with
    | nil => exact Prod.mk.inj (List.cons.inj same).1
    | cons entry left' =>
      obtain rfl := (List.cons.inj same).1
      exact absurd (known' _ List.mem_cons_self) unknown
  | cons entry left inductionHypothesis =>
    cases left' with
    | nil =>
      obtain rfl := (List.cons.inj same).1
      exact absurd (known _ List.mem_cons_self) unknown'
    | cons entry' left' =>
      exact inductionHypothesis (List.forall_mem_cons.mp known).2 left' (List.cons.inj same).2
        (List.forall_mem_cons.mp known').2

/-! ## Stages of resolving -/

/-- An outcome of resolving some names: a value that is bound to them if all are known, and otherwise
the error about the leftmost unknown one. -/
def Settles (keywords : List String) (units : UnitTable υ) {α : Type} (names : List (Slot × String))
    (bound : α → Prop) : Except ParseError α → Prop
  | .ok value => (∀ entry ∈ names, Known keywords units entry) ∧ bound value
  | .error error => ∃ slot name, LeftmostUnknown keywords units names slot name ∧
      error = .unknownName slot name

/-- One stage after another settles the names of both, since the second looks at its names only when
all of the first are known. -/
theorem Settles.bind {α β : Type} {bound : α → Prop} {bound' : β → Prop}
    {outcome : Except ParseError α} {next : α → Except ParseError β}
    (settled : Settles keywords units names bound outcome)
    (settles : ∀ value, bound value → Settles keywords units more bound' (next value)) :
    Settles keywords units (names ++ more) bound' (outcome >>= next) := by
  cases outcome with
  | error error =>
    -- the names of the second stage are never looked at
    obtain ⟨slot, name, leftmost, rfl⟩ := settled
    exact ⟨slot, name, leftmost.append, rfl⟩
  | ok value =>
    obtain ⟨allKnown, isBound⟩ := settled
    have second := settles value isBound
    change Settles keywords units (names ++ more) bound' (next value)
    cases final : next value with
    | ok value' =>
      rw [final] at second
      exact ⟨List.forall_mem_append.mpr ⟨allKnown, second.1⟩, second.2⟩
    | error error =>
      rw [final] at second
      obtain ⟨slot, name, leftmost, rfl⟩ := second
      exact ⟨slot, name, leftmost.after allKnown, rfl⟩

/-- What is made of a value without looking at further names. -/
theorem Settles.map {α β : Type} {bound : α → Prop} {bound' : β → Prop}
    {outcome : Except ParseError α} {f : α → β}
    (settled : Settles keywords units names bound outcome)
    (maps : ∀ value, bound value → bound' (f value)) :
    Settles keywords units names bound' (outcome >>= fun value => pure (f value)) := by
  rw [← List.append_nil names]
  exact settled.bind fun value isBound => ⟨nofun, maps value isBound⟩

theorem Settles.cons {α : Type} {bound : α → Prop} {outcome : Except ParseError α}
    {entry : Slot × String} (known : Known keywords units entry)
    (settled : Settles keywords units names bound outcome) :
    Settles keywords units (entry :: names) bound outcome := by
  have allKnown : ∀ entry' ∈ [entry], Known keywords units entry' :=
    List.forall_mem_singleton.mpr known
  cases outcome with
  | ok value => exact ⟨List.forall_mem_cons.mpr ⟨known, settled.1⟩, settled.2⟩
  | error error =>
    obtain ⟨slot, name, leftmost, rfl⟩ := settled
    exact ⟨slot, name, leftmost.after allKnown, rfl⟩

theorem known_iff (notKeyword : slot ≠ .nowKeyword) :
    Known keywords units (slot, name) ↔ ∃ unit, units.find? name = some unit := by
  cases slot <;> first | rfl | contradiction

theorem settles_resolveName (notKeyword : slot ≠ .nowKeyword) (name : String) :
    Settles keywords units [(slot, name)] (units.find? name = some ·)
      (resolveName units slot name) := by
  have known : Known keywords units (slot, name) ↔ _ := known_iff notKeyword
  rw [resolveName]
  cases found : units.find? name with
  | some unit => exact ⟨List.forall_mem_singleton.mpr (known.mpr ⟨unit, found⟩), rfl⟩
  | none => exact ⟨slot, name, ⟨[], [], rfl, nofun, by simp [known, found]⟩, rfl⟩

theorem settles_resolveName? (notKeyword : slot ≠ .nowKeyword) (name? : Option String) :
    Settles keywords units (name?.toList.map (slot, ·)) (name?.map units.find? = ·.map some)
      (resolveName? units slot name?) := by
  cases name? with
  | none => exact ⟨nofun, rfl⟩
  | some name =>
    have settled : Settles keywords units [(slot, name)] (units.find? name = some ·) _ :=
      settles_resolveName notKeyword name
    rw [resolveName?]
    cases outcome : resolveName units slot name with
    | ok unit =>
      rw [outcome] at settled
      exact ⟨settled.1, congrArg some settled.2⟩
    | error error =>
      rw [outcome] at settled
      exact settled

theorem settles_offset (offset : OffsetTokens) :
    Settles keywords units offset.names
      (fun resolved => offset.amount = resolved.amount ∧
        units.find? offset.unit = some resolved.unit ∧
        offset.rounding.map units.find? = resolved.rounding.map some)
      (offset.resolve units) :=
  (settles_resolveName (by decide) offset.unit).bind fun _ isUnit =>
    (settles_resolveName? (by decide) offset.rounding).map fun _ isRounding =>
      ⟨rfl, isUnit, isRounding⟩

/-- Resolving settles the names of an expression. -/
theorem settles_resolve (tokens : Tokens) :
    Settles keywords units tokens.names (Binds units tokens) (tokens.resolve keywords units) := by
  rw [Tokens.resolve]
  split
  case isFalse unknown =>
    exact ⟨.nowKeyword, tokens.keyword, ⟨[], _, rfl, nofun, by simpa [Known] using unknown⟩, rfl⟩
  case isTrue known =>
    refine Settles.cons (by simpa [Known] using known) ?_
    obtain ⟨keyword, name?, offset⟩ := tokens
    refine (settles_resolveName? (by decide) name?).bind fun rounding isRounding => ?_
    cases offset with
    | none => exact ⟨nofun, isRounding, rfl, rfl, rfl⟩
    | some offset =>
      refine (settles_offset offset).map fun resolved ⟨amount, unit, final⟩ => ?_
      exact ⟨isRounding, congrArg some amount, congrArg some unit, final⟩

/-! ## Outcomes of resolving -/

theorem resolve_cases (keywords : List String) (units : UnitTable υ) (tokens : Tokens) :
    (∃ resolved, tokens.resolve keywords units = .ok resolved ∧
      (∀ entry ∈ tokens.names, Known keywords units entry) ∧ Binds units tokens resolved) ∨
    ∃ slot name, tokens.resolve keywords units = .error (.unknownName slot name) ∧
      LeftmostUnknown keywords units tokens.names slot name := by
  have settled : Settles keywords units tokens.names _ (tokens.resolve keywords units) :=
    settles_resolve tokens
  cases outcome : tokens.resolve keywords units with
  | ok resolved =>
    rw [outcome] at settled
    exact .inl ⟨resolved, rfl, settled⟩
  | error error =>
    rw [outcome] at settled
    obtain ⟨slot, name, leftmost, rfl⟩ := settled
    exact .inr ⟨slot, name, rfl, leftmost⟩

/-- The error is about the leftmost unknown name. -/
theorem resolve_of_leftmostUnknown {tokens : Tokens}
    (leftmost : LeftmostUnknown keywords units tokens.names slot name) :
    tokens.resolve keywords units = .error (.unknownName slot name) := by
  rcases resolve_cases keywords units tokens with
    ⟨resolved, -, allKnown, -⟩ | ⟨slot', name', failed, other⟩
  · obtain ⟨entry, member, unknown⟩ := leftmost.exists_unknown
    exact absurd (allKnown entry member) unknown
  · obtain ⟨rfl, rfl⟩ := leftmost.unique other
    exact failed

end Expression

end RelativeTime
