import Mathlib.Order.Bounds.Defs
import RelativeTime.Proofs.Moment.LocalForm
import RelativeTime.Proofs.Zone.Showings

/-!
# The first reading of a wall time

An unmarked wall time is normalised to its first reading. If any instant shows the wall time, the
first reading is the earliest that does (`Moment.isLeast_firstInstant`). Otherwise a change skips the
wall time, and its first reading shows what is later by the length of the skipped stretch
(`Moment.wall_firstInstant_of_skips`). All of it is what holds of whole seconds, with the microseconds
carried along.
-/

namespace RelativeTime

namespace Moment

/-- The microsecond of universal time that a wall time is first read as. -/
def firstInstant (zone : Zone) (wall : Int) : Int :=
  wall - zone.wallOffset (wall / perSecond) false * perSecond

variable {zone : Zone} {u wall t : Int}

theorem normalize_unmarked (zone : Zone) (wall : Int) :
    normalize ⟨wall, false, some zone⟩ = ofInstant? zone (firstInstant zone wall) :=
  normalize_eq rfl nofun

theorem firstInstant_div (zone : Zone) (wall : Int) :
    firstInstant zone wall / perSecond = zone.firstReading (wall / perSecond) := by
  simp only [firstInstant, Zone.firstReading, perSecond]
  omega

theorem firstInstant_emod (zone : Zone) (wall : Int) :
    firstInstant zone wall % perSecond = wall % perSecond := by
  simp only [firstInstant, perSecond]
  omega

/-- A wall time is shown by its second and by the microseconds in it. -/
theorem wall_ofInstant_eq_iff : (ofInstant zone u).wall = wall ↔
    u / perSecond + zone.offsetAt (u / perSecond) = wall / perSecond ∧
      u % perSecond = wall % perSecond := by
  simp only [ofInstant, perSecond]
  omega

/-! ## Wall times that are shown -/

theorem not_skips_of_wall_eq (spaced : zone.Spaced) (shown : (ofInstant zone u).wall = wall)
    (t : Int) : ¬ zone.Skips t (wall / perSecond) := by
  rw [← (wall_ofInstant_eq_iff.mp shown).1]
  exact spaced.not_skips_shown t _

/-- What is shown is shown at its first reading, and not before. -/
theorem isLeast_firstInstant (spaced : zone.Spaced) (shown : ∃ u, (ofInstant zone u).wall = wall) :
    IsLeast {u | (ofInstant zone u).wall = wall} (firstInstant zone wall) := by
  obtain ⟨u, shown⟩ := shown
  constructor
  · refine wall_ofInstant_eq_iff.mpr ⟨?_, firstInstant_emod zone wall⟩
    rw [firstInstant_div]
    exact spaced.local_firstReading (not_skips_of_wall_eq spaced shown)
  · intro w shows
    obtain ⟨second, micros⟩ := wall_ofInstant_eq_iff.mp shows
    have earlier := spaced.firstReading_le_of_shown second
    have firstMicros := firstInstant_emod zone wall
    rw [← firstInstant_div] at earlier
    simp only [perSecond] at *
    omega

/-- A second showing is marked, and nothing else is. -/
theorem secondPass_iff_shown_before (spaced : zone.Spaced) : (ofInstant zone u).secondPass = true ↔
    ∃ earlier < u, (ofInstant zone earlier).wall = (ofInstant zone u).wall := by
  change zone.isSecondPass (u / perSecond) = true ↔ _
  rw [spaced.isSecondPass_iff_shown_before]
  constructor
  · rintro ⟨earlier, before, shown⟩
    refine ⟨earlier * perSecond + u % perSecond, ?_, wall_ofInstant_eq_iff.mpr ?_⟩
    · simp only [perSecond] at *
      omega
    · rw [wall_ofInstant_div]
      have second : (earlier * perSecond + u % perSecond) / perSecond = earlier := by
        simp only [perSecond]
        omega
      rw [second]
      refine ⟨shown, ?_⟩
      simp only [ofInstant, perSecond]
      omega
  · rintro ⟨earlier, before, shown⟩
    obtain ⟨second, micros⟩ := wall_ofInstant_eq_iff.mp shown
    rw [wall_ofInstant_div] at second
    refine ⟨earlier / perSecond, ?_, second⟩
    -- in one second the wall clock does not show the same microsecond twice
    simp only [ofInstant, perSecond] at *
    omega

theorem firstInstant_wall_le (spaced : zone.Spaced) (u : Int) :
    firstInstant zone (ofInstant zone u).wall ≤ u :=
  (isLeast_firstInstant spaced ⟨u, rfl⟩).2 rfl

/-- A moment is read back unless it is a second showing, which is read as the first. -/
theorem firstInstant_wall_eq_iff (spaced : zone.Spaced) :
    firstInstant zone (ofInstant zone u).wall = u ↔ (ofInstant zone u).secondPass = false := by
  obtain ⟨shows, earliest⟩ := isLeast_firstInstant spaced ⟨u, (rfl : (ofInstant zone u).wall = _)⟩
  rw [← Bool.not_eq_true, secondPass_iff_shown_before spaced]
  constructor
  · rintro same ⟨earlier, before, shown⟩
    have := earliest shown
    omega
  · intro first
    refine Int.le_antisymm (firstInstant_wall_le spaced u) ?_
    exact Int.not_lt.mp fun before => first ⟨_, before, shows⟩

/-! ## Wall times that are skipped -/

theorem skipped_of_not_shown (spaced : zone.Spaced) (never : ∀ u, (ofInstant zone u).wall ≠ wall) :
    ∃ t, zone.Skips t (wall / perSecond) := by
  rcases spaced.shown_or_skipped (wall / perSecond) with ⟨u, shown⟩ | skipped
  · -- if its second is shown, so is the wall time, at its microseconds past that
    have second : (u * perSecond + wall % perSecond) / perSecond = u := by
      simp only [perSecond]
      omega
    refine absurd (wall_ofInstant_eq_iff.mpr ⟨?_, ?_⟩) (never (u * perSecond + wall % perSecond))
    · rw [second]
      exact shown
    · simp only [perSecond]
      omega
  · exact skipped

theorem offset_firstInstant_of_skips (spaced : zone.Spaced)
    (skips : zone.Skips t (wall / perSecond)) :
    (ofInstant zone (firstInstant zone wall)).offset? = some (zone.offsetAt t) := by
  rw [offset?_ofInstant spaced, firstInstant_div]
  exact congrArg some (spaced.offsetAt_firstReading_of_skips skips).2.1

/-- In place of a skipped wall time a later one is shown, by the length of the skipped stretch. -/
theorem wall_firstInstant_of_skips (spaced : zone.Spaced)
    (skips : zone.Skips t (wall / perSecond)) :
    (ofInstant zone (firstInstant zone wall)).wall =
      wall + (zone.offsetAt t - zone.offsetAt (t - 1)) * perSecond := by
  have later := spaced.local_firstReading_of_skips skips
  have micros := firstInstant_emod zone wall
  rw [wall_ofInstant_eq_iff, firstInstant_div, later, micros]
  simp only [perSecond]
  omega

end Moment

end RelativeTime
