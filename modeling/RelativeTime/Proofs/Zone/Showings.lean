import RelativeTime.Proofs.Zone.LocalTime

/-!
# When a wall second is shown

A wall second that no change skips is shown at the second it is first read as, and at no second
before that; a second showing is a showing with another one before it. Where a first reading lies
depends on a change that jumps over the wall second: `Spaced.firstReading_le_iff_of_reached` is about
seconds at which local time has reached the wall second, and `Spaced.lt_firstReading_iff_of_notYet`
about those at which it has not. Both hold of every zone whose changes are spaced, and a change can
only matter to them if the wall second is strictly inside the stretch that it skips or repeats.
-/

namespace RelativeTime

namespace Zone

variable {zone : Zone} {s t u : Int}

theorem SkipsInside.skips (inside : zone.SkipsInside t s) : zone.Skips t s :=
  ⟨Int.le_of_lt inside.1, inside.2⟩

theorem RepeatsInside.changesAt (inside : zone.RepeatsInside t s) : zone.ChangesAt t := by
  obtain ⟨reached, notYet⟩ := inside
  rw [ChangesAt]
  omega

namespace Spaced

variable (spaced : zone.Spaced)
include spaced

/-! ## First showings -/

theorem local_firstReading (unskipped : ∀ t, ¬ zone.Skips t s) :
    zone.firstReading s + zone.offsetAt (zone.firstReading s) = s := by
  rcases spaced.shows_or_skips s false with shows | ⟨t, skips⟩
  · rw [Shows] at shows
    rw [firstReading, shows]
    omega
  · exact absurd skips (unskipped t)

/-- A wall second is shown at some second or skipped by some change. -/
theorem shown_or_skipped (s : Int) :
    (∃ u, u + zone.offsetAt u = s) ∨ ∃ t, zone.Skips t s := by
  by_cases skipped : ∃ t, zone.Skips t s
  · exact .inr skipped
  · exact .inl ⟨_, spaced.local_firstReading fun t skips => skipped ⟨t, skips⟩⟩

theorem firstReading_le_of_shown (shown : u + zone.offsetAt u = s) : zone.firstReading s ≤ u := by
  refine spaced.firstReading_le (fun t inside => ?_) (Int.le_of_eq shown.symm)
  exact spaced.not_skips_shown t u (shown ▸ inside.skips)

/-- What is shown in place of a skipped wall second is later by the length of the stretch. -/
theorem local_firstReading_of_skips (skips : zone.Skips t s) :
    zone.firstReading s + zone.offsetAt (zone.firstReading s) =
      s + (zone.offsetAt t - zone.offsetAt (t - 1)) := by
  obtain ⟨-, offset, reading⟩ := spaced.offsetAt_firstReading_of_skips skips
  rw [offset, reading]
  omega

/-- A second showing is one that has another before it. -/
theorem isSecondPass_iff_shown_before : zone.isSecondPass u = true ↔
    ∃ earlier < u, earlier + zone.offsetAt earlier = u + zone.offsetAt u := by
  constructor
  · intro second
    have shown := spaced.local_firstReading (spaced.not_skips_shown · u)
    refine ⟨zone.firstReading (u + zone.offsetAt u), ?_, shown⟩
    refine Int.lt_iff_le_and_ne.mpr ⟨spaced.firstReading_le_of_shown rfl, fun same => ?_⟩
    -- first readings are not second showings
    have first := spaced.isSecondPass_firstReading (u + zone.offsetAt u)
    rw [same, second] at first
    contradiction
  · rintro ⟨earlier, before, shown⟩
    rw [← Bool.not_eq_false]
    intro first
    have := spaced.firstReading_le_of_shown shown
    rw [spaced.firstReading_shown first] at this
    omega

/-! ## Wall seconds that a change jumps over -/

theorem turns_of_repeatsInside (inside : zone.RepeatsInside t s) :
    zone.Turns (s - 86400) (s + 86400) t (zone.offsetAt (t - 1)) (zone.offsetAt t) := by
  have lower := zone.lower_offsetAt t
  have upper := zone.offsetAt_upper (t - 1)
  have changes := inside.changesAt
  obtain ⟨reached, notOver⟩ := inside
  exact spaced.turns_at changes (by omega) (by omega) (by omega)

theorem firstReading_of_repeatsInside (inside : zone.RepeatsInside t s) :
    zone.firstReading s = s - zone.offsetAt (t - 1) := by
  have turns := spaced.turns_of_repeatsInside inside
  obtain ⟨reached, notOver⟩ := inside
  rw [firstReading, turns.wallOffset_eq, if_neg Bool.false_ne_true, if_pos (by omega)]

/-- Once local time has reached a wall second its first reading has passed, but for the time that a
change which skips it still has to make up. -/
theorem firstReading_le_iff_of_reached (reached : s ≤ u + zone.offsetAt u) :
    zone.firstReading s ≤ u ↔
      ∀ t, zone.SkipsInside t s → s - zone.offsetAt (t - 1) ≤ u := by
  constructor
  · intro passed t inside
    obtain ⟨-, -, reading⟩ := spaced.offsetAt_firstReading_of_skips inside.skips
    omega
  · intro madeUp
    by_cases jumped : ∃ t, zone.SkipsInside t s
    · obtain ⟨t, inside⟩ := jumped
      obtain ⟨-, -, reading⟩ := spaced.offsetAt_firstReading_of_skips inside.skips
      have := madeUp t inside
      omega
    · exact spaced.firstReading_le (fun t inside => jumped ⟨t, inside⟩) reached

/-- While local time has not reached a wall second its first reading is to come, unless it was shown
before a change that set the clock back to before it. -/
theorem lt_firstReading_iff_of_notYet (notYet : u + zone.offsetAt u < s) :
    u < zone.firstReading s ↔ ∀ t, zone.RepeatsInside t s → u < t := by
  constructor
  · intro before t inside
    have reading := spaced.firstReading_of_repeatsInside inside
    have notOver := inside.2
    omega
  · intro unreached
    refine Int.not_le.mp fun passed => ?_
    by_cases jumped : ∃ t, zone.RepeatsInside t s
    · -- before the change the old offset holds, under which the first reading shows the wall second
      obtain ⟨t, inside⟩ := jumped
      have reading := spaced.firstReading_of_repeatsInside inside
      have turns := spaced.turns_of_repeatsInside inside
      have beforeBounds := turns.before_bounds
      rw [turns.offset_before u (by omega) (unreached t inside)] at notYet
      omega
    · have := spaced.le_of_firstReading_le (fun t inside => jumped ⟨t, inside⟩) passed
      omega

end Spaced

end Zone

end RelativeTime
