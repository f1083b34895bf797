import RelativeTime.Proofs.Zone.Changes

/-!
# Zones with a table of changes

Whether the changes of a zone without a yearly rule are spaced can be computed from its table. The
table is followed from its first entry on: before that entry the first offset holds, and from it on
the zone is the one whose table is the rest.
-/

namespace RelativeTime

namespace Zone

/-- The zone with a first offset and a table of changes. -/
def ofTable (base : UtcOffset) (changes : List Change) : Zone :=
  { base, changes, rule := none }

/-- Whether the offset goes from entry to entry by a day at most, and the entries are more than two
days apart. -/
def isSpacedTable (base : UtcOffset) : List Change → Bool
  | [] => true
  | change :: later =>
    -86400 ≤ change.period.offset.seconds - base.seconds &&
      change.period.offset.seconds - base.seconds ≤ 86400 &&
      later.all (172800 < ·.instant - change.instant) &&
      isSpacedTable change.period.offset later

variable {base : UtcOffset} {change : Change} {changes later : List Change} {t u : Int}

theorem offsetAt_ofTable_nil (base : UtcOffset) (u : Int) :
    (ofTable base []).offsetAt u = base.seconds := rfl

theorem offsetAt_ofTable_cons (base : UtcOffset) (change : Change) (later : List Change) (u : Int) :
    (ofTable base (change :: later)).offsetAt u =
      if change.instant ≤ u then (ofTable change.period.offset later).offsetAt u
      else base.seconds := by
  by_cases reached : change.instant ≤ u
  · simp only [offsetAt, periodAt, ofTable, tablePeriodAt, List.takeWhile_cons, reached,
      decide_true, if_true, List.getLast?_cons]
    cases (later.takeWhile (·.instant ≤ u)).getLast? <;> rfl
  · simp [offsetAt, periodAt, ofTable, tablePeriodAt, reached]

/-- Before all entries the first offset holds. -/
theorem offsetAt_ofTable_of_lt (before : ∀ change ∈ changes, u < change.instant) :
    (ofTable base changes).offsetAt u = base.seconds := by
  cases changes with
  | nil => rfl
  | cons change later =>
    rw [offsetAt_ofTable_cons, if_neg (Int.not_le.mpr (before change List.mem_cons_self))]

/-- A change is that of the first entry, or a later one of the rest of the table. -/
theorem changesAt_ofTable_cons (changes : (ofTable base (change :: later)).ChangesAt t) :
    t = change.instant ∨
      change.instant < t ∧ (ofTable change.period.offset later).ChangesAt t := by
  rw [ChangesAt, offsetAt_ofTable_cons, offsetAt_ofTable_cons] at changes
  rcases Int.lt_trichotomy t change.instant with before | same | after
  · rw [if_neg (by omega), if_neg (by omega)] at changes
    contradiction
  · exact .inl same
  · rw [if_pos (by omega), if_pos (by omega)] at changes
    exact .inr ⟨after, changes⟩

theorem exists_mem_of_changesAt (changesAt : (ofTable base changes).ChangesAt t) :
    ∃ change ∈ changes, change.instant = t := by
  induction changes generalizing base with
  | nil => exact absurd rfl changesAt
  | cons change later inductionHypothesis =>
    rcases changesAt_ofTable_cons changesAt with same | ⟨-, changesAt⟩
    · exact ⟨change, List.mem_cons_self, same.symm⟩
    · obtain ⟨entry, member, same⟩ := inductionHypothesis changesAt
      exact ⟨entry, List.mem_cons_of_mem _ member, same⟩

theorem spaced_ofTable (isSpaced : isSpacedTable base changes) : (ofTable base changes).Spaced := by
  induction changes generalizing base with
  | nil => exact ⟨fun changesAt => absurd rfl changesAt, fun t => by simp [offsetAt_ofTable_nil]⟩
  | cons change later inductionHypothesis =>
    simp only [isSpacedTable, Bool.and_eq_true, decide_eq_true_eq, List.all_eq_true] at isSpaced
    obtain ⟨⟨⟨lower, upper⟩, apart⟩, rest⟩ := isSpaced
    have spaced := inductionHypothesis rest
    constructor
    · intro t t' changesAt changesAt' ordered
      rcases changesAt_ofTable_cons changesAt with rfl | ⟨after, changesAt⟩
      · rcases changesAt_ofTable_cons changesAt' with rfl | ⟨-, changesAt'⟩
        · omega
        · obtain ⟨entry, member, rfl⟩ := exists_mem_of_changesAt changesAt'
          exact apart entry member
      · rcases changesAt_ofTable_cons changesAt' with rfl | ⟨-, changesAt'⟩
        · omega
        · exact spaced.apart changesAt changesAt' ordered
    · intro t
      rw [offsetAt_ofTable_cons, offsetAt_ofTable_cons]
      rcases Int.lt_trichotomy t change.instant with before | rfl | after
      · rw [if_neg (by omega), if_neg (by omega)]
        omega
      · -- the rest of the table begins later
        rw [if_pos (Int.le_refl _), if_neg (by omega), offsetAt_ofTable_of_lt]
        · exact ⟨lower, upper⟩
        · intro entry member
          have := apart entry member
          omega
      · rw [if_pos (by omega), if_pos (by omega)]
        exact spaced.small t

end Zone

end RelativeTime
