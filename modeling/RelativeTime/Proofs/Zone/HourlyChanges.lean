import RelativeTime.Proofs.Zone.Readings
import RelativeTime.Proofs.Zone.Table

/-!
# Changes by an hour

Most clocks are set by one hour, and when they show a whole hour. Then every change skips or repeats one
hour of the wall clock, and nothing less than an hour is cut by a change: the wall seconds of an hour
are shown under one offset, and they are repeated together or not at all.
-/

namespace RelativeTime

namespace Zone

/-- Wherever the offset changes, it does so by an hour, and the clock shows a whole hour just before. -/
structure ChangesByHours (zone : Zone) : Prop where
  hour : ∀ {t : Int}, zone.ChangesAt t →
    zone.offsetAt t = zone.offsetAt (t - 1) + 3600 ∨ zone.offsetAt t = zone.offsetAt (t - 1) - 3600
  whole : ∀ {t : Int}, zone.ChangesAt t → 3600 ∣ t + zone.offsetAt (t - 1)

namespace ChangesByHours

variable {zone : Zone} {s s' t u : Int} (hourly : zone.ChangesByHours)
include hourly

/-! ## The hour that a change repeats or skips -/

theorem offsetAt_of_repeats (repeats : zone.Repeats t s) :
    zone.offsetAt (t - 1) = zone.offsetAt t + 3600 := by
  have byHour := hourly.hour repeats.changesAt
  obtain ⟨reached, notOver⟩ := repeats
  omega

theorem offsetAt_of_skips (skips : zone.Skips t s) :
    zone.offsetAt t = zone.offsetAt (t - 1) + 3600 := by
  have byHour := hourly.hour skips.changesAt
  obtain ⟨reached, notYet⟩ := skips
  omega

theorem repeats_of_hour_eq (repeats : zone.Repeats t s) (sameHour : s' / 3600 = s / 3600) :
    zone.Repeats t s' := by
  have whole := hourly.whole repeats.changesAt
  have byHour := hourly.offsetAt_of_repeats repeats
  obtain ⟨reached, notOver⟩ := repeats
  constructor <;> omega

/-- A whole hour is repeated when the clock is set back to it. -/
theorem eq_of_repeats (repeats : zone.Repeats t s) (isWhole : 3600 ∣ s) :
    s = t + zone.offsetAt t := by
  have whole := hourly.whole repeats.changesAt
  have byHour := hourly.offsetAt_of_repeats repeats
  obtain ⟨reached, notOver⟩ := repeats
  omega

/-- A whole hour is skipped when the clock would have reached it. -/
theorem eq_of_skips (skips : zone.Skips t s) (isWhole : 3600 ∣ s) :
    s = t + zone.offsetAt (t - 1) := by
  have whole := hourly.whole skips.changesAt
  have byHour := hourly.offsetAt_of_skips skips
  obtain ⟨reached, notYet⟩ := skips
  omega

/-! ## Hours without a change -/

/-- The seconds of an hour on the wall are shown under one offset. -/
theorem shows_of_hour_eq (spaced : zone.Spaced) (shown : u + zone.offsetAt u = s)
    (sameHour : s' / 3600 = s / 3600) : zone.Shows s' (zone.offsetAt u) := by
  -- the hour around `u` has one change at most, and the clock does not show it within an hour
  obtain ⟨t, before, after, turns⟩ : ∃ t before after, zone.Turns (u - 3600) (u + 3600) t before after :=
    spaced.exists_turns (by omega) (by omega)
  have steady : before = after ∨ 3600 ∣ t + before ∧ (after = before + 3600 ∨ after = before - 3600) := by
    by_cases same : before = after
    · exact .inl same
    · have changes : zone.ChangesAt t := by
        rwa [ChangesAt, turns.offset_just_before, turns.offset_at]
      have whole := hourly.whole changes
      have byHour := hourly.hour changes
      rw [turns.offset_just_before] at whole byHour
      rw [turns.offset_at] at byHour
      exact .inr ⟨whole, byHour⟩
  rw [Shows]
  rcases Int.lt_or_le u t with early | late
  · have offset := turns.offset_before u (by omega) early
    rw [offset] at shown ⊢
    rcases Int.lt_or_le (s' - before) t with early' | late'
    · exact turns.offset_before _ (by omega) early'
    · rw [turns.offset_after _ late' (by omega)]
      omega
  · have offset := turns.offset_after u late (by omega)
    rw [offset] at shown ⊢
    rcases Int.lt_or_le (s' - after) t with early' | late'
    · rw [turns.offset_before _ (by omega) early']
      omega
    · exact turns.offset_after _ late' (by omega)

end ChangesByHours

theorem changesByHours_ofTable {base : UtcOffset} {changes : List Change}
    (byHours : ∀ change ∈ changes,
      ((ofTable base changes).offsetAt change.instant =
          (ofTable base changes).offsetAt (change.instant - 1) + 3600 ∨
        (ofTable base changes).offsetAt change.instant =
          (ofTable base changes).offsetAt (change.instant - 1) - 3600) ∧
        3600 ∣ change.instant + (ofTable base changes).offsetAt (change.instant - 1)) :
    (ofTable base changes).ChangesByHours := by
  constructor
  · intro t changesAt
    obtain ⟨change, member, rfl⟩ := exists_mem_of_changesAt changesAt
    exact (byHours change member).1
  · intro t changesAt
    obtain ⟨change, member, rfl⟩ := exists_mem_of_changesAt changesAt
    exact (byHours change member).2

end Zone

end RelativeTime
