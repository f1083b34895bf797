import RelativeTime.Proofs.Zone.Readings

/-!
# Wall seconds with a mark

With a mark or without one a wall second is read as one second of universal time (`Zone.readAs`). If a
change repeats the wall second the two readings are its two showings, and the mark is that of the showing
(`Spaced.isSecondPass_readAs_of_repeats`). If a change skips it, the unmarked reading uses the offset before
the change and comes out after it, and the marked one uses the offset after it and comes out before it
(`Spaced.offsetAt_readAs_of_skips`). For any other wall second the readings are the same.
-/

namespace RelativeTime

namespace Zone

/-- The second of universal time that wall second `s` is read as with or without the mark. -/
def readAs (zone : Zone) (s : Int) (secondPass : Bool) : Int :=
  s - zone.wallOffset s secondPass

variable {zone : Zone} {s t u : Int}

namespace Spaced

variable (spaced : zone.Spaced)
include spaced

/-- A second showing is one of a repeated wall second, from the change that repeats it on. -/
theorem isSecondPass_iff_repeats :
    zone.isSecondPass u = true ↔ ∃ t ≤ u, zone.Repeats t (u + zone.offsetAt u) := by
  constructor
  · intro second
    obtain ⟨t, late, -, -, steady, notYet⟩ := spaced.exists_change_of_isSecondPass second
    exact ⟨t, late, by omega, notYet⟩
  · rintro ⟨t, late, repeats⟩
    exact ((spaced.turns_of_repeats repeats).isSecondPass_iff rfl).mpr ⟨late, repeats.2⟩

/-! ## Wall seconds that are shown -/

theorem local_readAs (unskipped : ∀ t, ¬ zone.Skips t s) (secondPass : Bool) :
    zone.readAs s secondPass + zone.offsetAt (zone.readAs s secondPass) = s := by
  rcases spaced.shows_or_skips s secondPass with shows | ⟨t, skips⟩
  · exact shows.shown
  · exact absurd skips (unskipped t)

theorem not_skips_of_repeats {t' : Int} (repeats : zone.Repeats t s) : ¬ zone.Skips t' s := by
  intro skips
  have reading := spaced.reading_of_repeats repeats
  rw [spaced.reading_of_skips skips] at reading
  contradiction

/-- Of a repeated wall second the marked reading is the second showing and the unmarked one the first. -/
theorem isSecondPass_readAs_of_repeats (repeats : zone.Repeats t s) (secondPass : Bool) :
    zone.isSecondPass (zone.readAs s secondPass) = secondPass := by
  have shown := spaced.local_readAs (fun _ => spaced.not_skips_of_repeats repeats) secondPass
  have turns := spaced.turns_of_repeats repeats
  have reading : zone.readAs s secondPass = s - zone.offsetAt (if secondPass then t else t - 1) := by
    rw [readAs, wallOffset, spaced.reading_of_repeats repeats]
    cases secondPass <;> rfl
  obtain ⟨reached, notOver⟩ := repeats
  rw [Bool.eq_iff_iff, turns.isSecondPass_iff shown, reading, and_iff_left notOver]
  cases secondPass with
  | false =>
    simp only [Bool.false_eq_true, if_false, iff_false]
    omega
  | true =>
    simp only [if_true, iff_true]
    omega

theorem not_skips_of_shownOnce (once : zone.ShownOnce s) (t : Int) : ¬ zone.Skips t s := by
  obtain ⟨u, rfl⟩ := once.exists
  exact spaced.not_skips_shown t u

theorem isSecondPass_readAs_of_shownOnce (once : zone.ShownOnce s) (secondPass : Bool) :
    zone.isSecondPass (zone.readAs s secondPass) = false := by
  have shown := spaced.local_readAs (spaced.not_skips_of_shownOnce once) secondPass
  rw [← Bool.not_eq_true, spaced.isSecondPass_iff_shown_before]
  rintro ⟨earlier, before, shownBefore⟩
  have := once.unique (shownBefore.trans shown) shown
  omega

/-! ## Wall seconds that are skipped -/

section

variable (skips : zone.Skips t s) (secondPass : Bool)
include skips

theorem readAs_of_skips :
    zone.readAs s secondPass = s - zone.offsetAt (if secondPass then t else t - 1) := by
  rw [readAs, spaced.wallOffset_of_skips skips]

/-- A skipped wall second is read with one offset as a second at which the other one holds. -/
theorem offsetAt_readAs_of_skips : zone.offsetAt (zone.readAs s secondPass) =
    zone.offsetAt (if secondPass then t - 1 else t) := by
  have turns := spaced.turns_of_skips skips
  have lower := zone.lower_offsetAt (t - 1)
  have upper := zone.offsetAt_upper t
  have reading := spaced.readAs_of_skips skips secondPass
  obtain ⟨reached, notYet⟩ := skips
  cases secondPass with
  | false =>
    simp only [Bool.false_eq_true, if_false] at reading ⊢
    exact turns.offset_after _ (by omega) (by omega)
  | true =>
    simp only [if_true] at reading ⊢
    exact turns.offset_before _ (by omega) (by omega)

/-- No change that sets the clock back is near enough for a second showing. -/
theorem isSecondPass_readAs_of_skips : zone.isSecondPass (zone.readAs s secondPass) = false := by
  rw [← Bool.not_eq_true, spaced.isSecondPass_iff_repeats]
  rintro ⟨t', late, repeats⟩
  have changes := skips.changesAt
  have changes' := repeats.changesAt
  have offset := spaced.offsetAt_of_repeats repeats rfl
  rw [if_neg (Int.not_lt.mpr late)] at offset
  have small := spaced.small t
  have small' := spaced.small t'
  have reading := spaced.readAs_of_skips skips secondPass
  obtain ⟨reached, notYet⟩ := skips
  obtain ⟨reached', notOver⟩ := repeats
  -- both changes are within a day of the reading
  have near : t - 86400 ≤ zone.readAs s secondPass ∧ zone.readAs s secondPass < t + 86400 := by
    cases secondPass <;> simp only [Bool.false_eq_true, if_false, if_true] at reading <;> omega
  rcases Int.lt_trichotomy t t' with earlier | rfl | later
  · have := spaced.apart changes changes' earlier
    omega
  · omega
  · have := spaced.apart changes' changes later
    omega

end

end Spaced

end Zone

end RelativeTime
