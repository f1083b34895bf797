import Mathlib.Data.Int.Init
import RelativeTime.Zone.Basic

/-!
# Changes of the offset

Where the offset of a zone changes is read off `Zone.offsetAt` alone, so that nothing here depends on
whether a change comes from the table of a zone or from its yearly rule. Between changes the offset
is constant. In a zone whose changes are spaced, a stretch of two days has at most one of them, and
`Zone.Turns` says what the offset does there: it is `before` up to some second and `after` from then
on. Local time is settled from that.
-/

namespace RelativeTime

namespace Zone

/-- The offset at second `t` of universal time is not that of the second before. -/
def ChangesAt (zone : Zone) (t : Int) : Prop :=
  zone.offsetAt (t - 1) ≠ zone.offsetAt t

/-- The offset changes by a day at most, and then not again for two days. -/
structure Spaced (zone : Zone) : Prop where
  apart : ∀ {t t' : Int}, zone.ChangesAt t → zone.ChangesAt t' → t < t' → 172800 < t' - t
  small : ∀ t : Int, -86400 ≤ zone.offsetAt t - zone.offsetAt (t - 1) ∧
    zone.offsetAt t - zone.offsetAt (t - 1) ≤ 86400

/-- From second `first` to second `last` the offset is `before` up to second `t`, which is after the
first, and `after` from second `t` on. The two may be the same. -/
structure Turns (zone : Zone) (first last t before after : Int) : Prop where
  after_first : first < t
  upto_last : t ≤ last
  offset_before : ∀ u, first ≤ u → u < t → zone.offsetAt u = before
  offset_after : ∀ u, t ≤ u → u ≤ last → zone.offsetAt u = after

variable {zone : Zone} {first last t before after : Int}

theorem offsetAt_eq_of_unchanged (ordered : first ≤ last)
    (unchanged : ∀ t, first < t → t ≤ last → ¬ zone.ChangesAt t) :
    zone.offsetAt last = zone.offsetAt first := by
  induction last, ordered using Int.leInduction with
  | base => rfl
  | succ last ordered inductionHypothesis =>
    have steady : zone.offsetAt (last + 1 - 1) = zone.offsetAt (last + 1) :=
      Decidable.not_not.mp (unchanged (last + 1) (by omega) (by omega))
    rw [Int.add_sub_cancel] at steady
    rw [← steady]
    exact inductionHypothesis fun t afterFirst uptoLast =>
      unchanged t afterFirst (by omega)

namespace Turns

variable (turns : zone.Turns first last t before after)
include turns

theorem offset_just_before : zone.offsetAt (t - 1) = before := by
  have afterFirst := turns.after_first
  exact turns.offset_before (t - 1) (by omega) (by omega)

theorem offset_at : zone.offsetAt t = after :=
  turns.offset_after t (Int.le_refl _) turns.upto_last

/-- Wherever else the offset may change, it does not after `t`. -/
theorem not_changesAt {t' : Int} (later : t < t') (uptoLast : t' ≤ last) :
    ¬ zone.ChangesAt t' := by
  intro changes
  refine changes ?_
  rw [turns.offset_after (t' - 1) (by omega) (by omega),
    turns.offset_after t' (by omega) uptoLast]

end Turns

namespace Spaced

variable (spaced : zone.Spaced)
include spaced

/-- A change is the only one within two days. -/
theorem turns_at (changes : zone.ChangesAt t) (afterFirst : first < t) (uptoLast : t ≤ last)
    (short : last - first ≤ 172800) :
    zone.Turns first last t (zone.offsetAt (t - 1)) (zone.offsetAt t) := by
  have only : ∀ t', first < t' → t' ≤ last → zone.ChangesAt t' → t' = t := by
    intro t' afterFirst' uptoLast' changes'
    rcases Int.lt_trichotomy t t' with earlier | same | later
    · have := spaced.apart changes changes' earlier
      omega
    · exact same.symm
    · have := spaced.apart changes' changes later
      omega
  refine ⟨afterFirst, uptoLast, fun u lower upper => ?_, fun u lower upper => ?_⟩
  · refine (offsetAt_eq_of_unchanged (by omega) fun t' afterU beforeT changes' => ?_).symm
    have := only t' (by omega) (by omega) changes'
    omega
  · refine offsetAt_eq_of_unchanged lower fun t' afterT uptoU changes' => ?_
    have := only t' (by omega) (by omega) changes'
    omega

/-- In two days the offset turns once at most. -/
theorem exists_turns (ordered : first < last) (short : last - first ≤ 172800) :
    ∃ t before after, zone.Turns first last t before after := by
  by_cases changes : ∃ t, first < t ∧ t ≤ last ∧ zone.ChangesAt t
  · obtain ⟨t, afterFirst, uptoLast, changes⟩ := changes
    exact ⟨t, _, _, spaced.turns_at changes afterFirst uptoLast short⟩
  · refine ⟨last, zone.offsetAt first, zone.offsetAt first, ordered, Int.le_refl last, ?_, ?_⟩
    all_goals
      intro u lower upper
      refine offsetAt_eq_of_unchanged (by omega) fun t afterFirst uptoU changesAt => ?_
      exact changes ⟨t, afterFirst, by omega, changesAt⟩

end Spaced

end Zone

end RelativeTime
