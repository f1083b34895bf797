import RelativeTime.Proofs.Zone.Changes
import RelativeTime.Zone.Local

/-!
# Local time around a change

A wall second is read by the offsets a day before and a day after it, and in a zone whose changes are
spaced these two days have one change at most. With the second of that change the reading is a
comparison: a wall time goes with the old offset until the old clock has reached the change, or, if
the second showing is asked for, until the new clock starts at it (`Turns.wallOffset_eq`).

The rest is derived from that. Local time can be read back (`Spaced.wallOffset_isSecondPass`). A wall
second is shown by its first reading, unless a change skips it, and then its first reading comes as
long after the change as the wall second comes after the stretch begins. Local time passes a wall
second that no change jumps over exactly at its first reading (`Spaced.firstReading_le_iff`).
-/

namespace RelativeTime

namespace Zone

/-- The second of universal time that wall second `s` is read as, the first if there are two. -/
def firstReading (zone : Zone) (s : Int) : Int :=
  s - zone.wallOffset s false

/-- The change at `t` skips wall second `s`. -/
def Skips (zone : Zone) (t s : Int) : Prop :=
  t + zone.offsetAt (t - 1) ≤ s ∧ s < t + zone.offsetAt t

/-- Wall second `s` lies strictly within the stretch that the change at `t` skips. -/
def SkipsInside (zone : Zone) (t s : Int) : Prop :=
  t + zone.offsetAt (t - 1) < s ∧ s < t + zone.offsetAt t

/-- Wall second `s` lies strictly within the stretch that the change at `t` repeats. -/
def RepeatsInside (zone : Zone) (t s : Int) : Prop :=
  t + zone.offsetAt t < s ∧ s < t + zone.offsetAt (t - 1)

/-- With its mark for a second showing local time stands for the second that it was found at. -/
def ReadsBack (zone : Zone) : Prop :=
  ∀ u, zone.wallOffset (u + zone.offsetAt u) (zone.isSecondPass u) = zone.offsetAt u

variable {zone : Zone} {s t u before after : Int}

theorem Skips.changesAt (skips : zone.Skips t s) : zone.ChangesAt t := by
  obtain ⟨reached, notYet⟩ := skips
  rw [ChangesAt]
  omega

/-! ## Reading a wall second -/

namespace Turns

section

variable (turns : zone.Turns (s - 86400) (s + 86400) t before after)
include turns

theorem before_bounds : -86400 < before ∧ before < 86400 := by
  have afterFirst := turns.after_first
  rw [← turns.offset_before (s - 86400) (Int.le_refl _) afterFirst]
  exact ⟨zone.lower_offsetAt _, zone.offsetAt_upper _⟩

theorem after_bounds : -86400 < after ∧ after < 86400 := by
  rw [← turns.offset_after (s + 86400) turns.upto_last (Int.le_refl _)]
  exact ⟨zone.lower_offsetAt _, zone.offsetAt_upper _⟩

theorem shows_before_iff : zone.Shows s before ↔ s < t + before ∨ before = after := by
  have bounds := turns.before_bounds
  rw [Shows]
  rcases Int.lt_or_le (s - before) t with early | late
  · rw [turns.offset_before _ (by omega) early]
    simp only [true_iff]
    omega
  · rw [turns.offset_after _ late (by omega)]
    omega

theorem shows_after_iff : zone.Shows s after ↔ t + after ≤ s ∨ before = after := by
  have bounds := turns.after_bounds
  rw [Shows]
  rcases Int.lt_or_le (s - after) t with early | late
  · rw [turns.offset_before _ (by omega) early]
    omega
  · rw [turns.offset_after _ late (by omega)]
    simp only [true_iff]
    omega

theorem reading_eq : zone.reading s =
    if before = after then .once before
    else if s < t + before then
      if t + after ≤ s then .twice before after else .once before
    else if t + after ≤ s then .once after
    else .never before after := by
  have atFirst : zone.offsetAt (s - 86400) = before :=
    turns.offset_before _ (Int.le_refl _) turns.after_first
  have atLast : zone.offsetAt (s + 86400) = after :=
    turns.offset_after _ turns.upto_last (Int.le_refl _)
  simp only [reading, atFirst, atLast, turns.shows_before_iff, turns.shows_after_iff]
  by_cases same : before = after
  · simp only [same, if_true]
  · simp only [same, if_false, or_false]

/-- The old offset holds for a wall second until both clocks have passed it, or for the second showing
until the first of them has. -/
theorem wallOffset_eq (secondPass : Bool) : zone.wallOffset s secondPass =
    if s < t + (if secondPass then min before after else max before after) then before
    else after := by
  rw [wallOffset, turns.reading_eq]
  cases secondPass <;> simp only [Bool.false_eq_true, if_false, if_true]
  all_goals
    repeat' split
    all_goals simp only [WallReading.offset, Bool.false_eq_true, if_false, if_true] <;> omega

/-- A second of universal time is within a day of the wall second that is shown at it. -/
theorem offsetAt_eq (shown : u + zone.offsetAt u = s) :
    zone.offsetAt u = if u < t then before else after := by
  have lower := zone.lower_offsetAt u
  have upper := zone.offsetAt_upper u
  split
  case isTrue early => exact turns.offset_before u (by omega) early
  case isFalse late => exact turns.offset_after u (by omega) (by omega)

/-- A second showing comes after the change, and before the old clock would have been there. -/
theorem isSecondPass_iff (shown : u + zone.offsetAt u = s) :
    zone.isSecondPass u = true ↔ t ≤ u ∧ s < t + before := by
  have offset := turns.offsetAt_eq shown
  rw [isSecondPass, shown, turns.reading_eq, offset]
  rw [offset] at shown
  by_cases same : before = after
  · simp only [same, if_true, Bool.false_eq_true, false_iff]
    split at shown <;> omega
  rcases Int.lt_or_le u t with early | late
  · -- before the change there can only be a first showing
    rw [if_pos early] at shown
    have notYet : s < t + before := by omega
    by_cases reached : t + after ≤ s <;> simp [same, early, notYet, reached]
  · rw [if_neg (by omega)] at shown
    have reached : t + after ≤ s := by omega
    by_cases notYet : s < t + before <;> simp [same, late, notYet, reached]

end

end Turns

/-! ## Second showings -/

namespace Spaced

variable (spaced : zone.Spaced)
include spaced

/-- Around every wall second the offset turns once at most. -/
theorem turns_around (s : Int) :
    ∃ t before after, zone.Turns (s - 86400) (s + 86400) t before after :=
  spaced.exists_turns (by omega) (by omega)

/-- A second showing is one before the clock has caught up with the last change. -/
theorem isSecondPass_iff (u : Int) : zone.isSecondPass u = true ↔
    ∃ t ≤ u, (∀ t', t < t' → t' ≤ u → ¬ zone.ChangesAt t') ∧
      u + zone.offsetAt u < t + zone.offsetAt (t - 1) := by
  have lower := zone.lower_offsetAt u
  constructor
  · intro second
    obtain ⟨t, before, after, turns⟩ := spaced.turns_around (u + zone.offsetAt u)
    obtain ⟨late, notYet⟩ := (turns.isSecondPass_iff rfl).mp second
    refine ⟨t, late, fun t' afterT uptoU => turns.not_changesAt afterT (by omega), ?_⟩
    rw [turns.offset_just_before]
    exact notYet
  · rintro ⟨t, late, unchanged, notYet⟩
    have beforeUpper := zone.offsetAt_upper (t - 1)
    -- the offset went down at `t`, since the clock is behind what it was
    have changes : zone.ChangesAt t := by
      have steady := offsetAt_eq_of_unchanged late unchanged
      rw [ChangesAt]
      omega
    have turns : zone.Turns (u + zone.offsetAt u - 86400) (u + zone.offsetAt u + 86400) t _ _ :=
      spaced.turns_at changes (by omega) (by omega) (by omega)
    exact (turns.isSecondPass_iff rfl).mpr ⟨late, notYet⟩

/-- The last change before a second showing set the clock back. -/
theorem exists_change_of_isSecondPass (second : zone.isSecondPass u = true) :
    ∃ t ≤ u, zone.ChangesAt t ∧ (∀ t', t < t' → t' ≤ u → ¬ zone.ChangesAt t') ∧
      zone.offsetAt u = zone.offsetAt t ∧ u + zone.offsetAt u < t + zone.offsetAt (t - 1) := by
  obtain ⟨t, late, unchanged, notYet⟩ := (spaced.isSecondPass_iff u).mp second
  have steady := offsetAt_eq_of_unchanged late unchanged
  refine ⟨t, late, ?_, unchanged, steady, notYet⟩
  rw [ChangesAt]
  omega

/-! ## Reading local time back -/

/-- The offset is that of the reading which the mark of a second showing chooses. -/
theorem wallOffset_isSecondPass (u : Int) :
    zone.wallOffset (u + zone.offsetAt u) (zone.isSecondPass u) = zone.offsetAt u := by
  obtain ⟨t, before, after, turns⟩ := spaced.turns_around (u + zone.offsetAt u)
  have offset := turns.offsetAt_eq rfl
  have second := turns.isSecondPass_iff rfl
  rw [turns.wallOffset_eq]
  cases pass : zone.isSecondPass u with
  | true =>
    obtain ⟨late, notYet⟩ := second.mp pass
    rw [if_neg (by omega)] at offset
    rw [if_pos rfl, if_neg (by omega), offset]
  | false =>
    have first : ¬ (t ≤ u ∧ u + zone.offsetAt u < t + before) := by simp [← second, pass]
    rw [if_neg Bool.false_ne_true]
    split at offset <;> split <;> omega

theorem readsBack : zone.ReadsBack :=
  spaced.wallOffset_isSecondPass

/-- A wall second is shown at the second it is read as, or it is skipped. -/
theorem shows_or_skips (s : Int) (secondPass : Bool) :
    zone.Shows s (zone.wallOffset s secondPass) ∨ ∃ t, zone.Skips t s := by
  obtain ⟨t, before, after, turns⟩ := spaced.turns_around s
  by_cases skipped : t + before ≤ s ∧ s < t + after
  · refine .inr ⟨t, ?_⟩
    rw [Skips, turns.offset_just_before, turns.offset_at]
    exact skipped
  · left
    rw [turns.wallOffset_eq]
    rcases Int.lt_or_le s (t + if secondPass then min before after else max before after) with
      early | late
    · rw [if_pos early, turns.shows_before_iff]
      cases secondPass <;> simp only [Bool.false_eq_true, if_false, if_true] at early <;> omega
    · rw [if_neg (Int.not_lt.mpr late), turns.shows_after_iff]
      cases secondPass <;> simp only [Bool.false_eq_true, if_false, if_true] at late <;> omega

/-! ## Skipped wall seconds -/

theorem turns_of_skips (skips : zone.Skips t s) :
    zone.Turns (s - 86400) (s + 86400) t (zone.offsetAt (t - 1)) (zone.offsetAt t) := by
  have lower := zone.lower_offsetAt (t - 1)
  have upper := zone.offsetAt_upper t
  obtain ⟨reached, notYet⟩ := skips
  exact spaced.turns_at (Skips.changesAt ⟨reached, notYet⟩) (by omega) (by omega) (by omega)

theorem wallOffset_of_skips (skips : zone.Skips t s) (secondPass : Bool) :
    zone.wallOffset s secondPass = zone.offsetAt (if secondPass then t else t - 1) := by
  obtain ⟨reached, notYet⟩ := skips
  rw [(spaced.turns_of_skips ⟨reached, notYet⟩).wallOffset_eq]
  cases secondPass with
  | true => rw [if_pos rfl, if_pos rfl, if_neg (by omega)]
  | false => rw [if_neg Bool.false_ne_true, if_neg Bool.false_ne_true, if_pos (by omega)]

/-- What is skipped is shown at no second. -/
theorem not_skips_shown (t u : Int) : ¬ zone.Skips t (u + zone.offsetAt u) := by
  intro skips
  have offset := (spaced.turns_of_skips skips).offsetAt_eq rfl
  obtain ⟨reached, notYet⟩ := skips
  split at offset <;> omega

/-- Nothing is skipped within a day before a second showing. -/
theorem not_skips_of_isSecondPass (second : zone.isSecondPass u = true)
    (lower : u + zone.offsetAt u - 86400 ≤ s) (upper : s ≤ u + zone.offsetAt u) (t : Int) :
    ¬ zone.Skips t s := by
  intro skips
  have changes := skips.changesAt
  obtain ⟨reached, notYet⟩ := skips
  obtain ⟨t', late, changes', unchanged, steady, notYet'⟩ :=
    spaced.exists_change_of_isSecondPass second
  have small := spaced.small t'
  have lowerBefore := zone.lower_offsetAt (t - 1)
  have upperAfter := zone.offsetAt_upper t
  have upperBefore' := zone.offsetAt_upper (t' - 1)
  have lowerNow := zone.lower_offsetAt u
  rcases Int.lt_trichotomy t t' with earlier | same | later
  · have apart := spaced.apart changes changes' earlier
    by_cases between : ∃ t'', t < t'' ∧ t'' ≤ t' - 1 ∧ zone.ChangesAt t''
    · obtain ⟨t'', after, before, changes''⟩ := between
      have := spaced.apart changes changes'' after
      have := spaced.apart changes'' changes' (by omega)
      omega
    · -- the offset after the change that skips is the one before the change that repeats
      have := offsetAt_eq_of_unchanged (show t ≤ t' - 1 by omega) fun t'' after before changes'' =>
        between ⟨t'', after, before, changes''⟩
      omega
  · subst same
    omega
  · have := spaced.apart changes' changes later
    omega

/-- The first reading of a skipped wall second comes after the change. -/
theorem offsetAt_firstReading_of_skips (skips : zone.Skips t s) :
    t ≤ zone.firstReading s ∧ zone.offsetAt (zone.firstReading s) = zone.offsetAt t ∧
      zone.firstReading s = s - zone.offsetAt (t - 1) := by
  have reading : zone.firstReading s = s - zone.offsetAt (t - 1) := by
    rw [firstReading, spaced.wallOffset_of_skips skips, if_neg Bool.false_ne_true]
  have lower := zone.lower_offsetAt (t - 1)
  have late : t ≤ zone.firstReading s := by
    have := skips.1
    omega
  refine ⟨late, ?_, reading⟩
  exact (spaced.turns_of_skips skips).offset_after _ late (by omega)

/-! ## First readings -/

/-- A first reading is never a second showing. -/
theorem isSecondPass_firstReading (s : Int) : zone.isSecondPass (zone.firstReading s) = false := by
  rw [← Bool.not_eq_true]
  intro second
  rcases spaced.shows_or_skips s false with shows | ⟨t, skips⟩
  · obtain ⟨t, before, after, turns⟩ := spaced.turns_around s
    have shown : zone.firstReading s + zone.offsetAt (zone.firstReading s) = s := by
      rw [firstReading, shows]
      omega
    have late := (turns.isSecondPass_iff shown).mp second
    rw [firstReading, turns.wallOffset_eq, if_neg Bool.false_ne_true] at late
    split at late <;> omega
  · obtain ⟨late, offset, reading⟩ := spaced.offsetAt_firstReading_of_skips skips
    obtain ⟨t', late', changes', unchanged, -, notYet⟩ := spaced.exists_change_of_isSecondPass second
    have changes := skips.changesAt
    obtain ⟨reached, before⟩ := skips
    have lower := zone.lower_offsetAt (t - 1)
    have upper := zone.offsetAt_upper t
    -- the last change before the first reading is the one that skips, and it sets no clock back
    rcases Int.lt_trichotomy t t' with earlier | same | later
    · have := spaced.apart changes changes' earlier
      omega
    · subst same
      omega
    · exact unchanged t later late changes

/-- What is not a second showing is a first reading. -/
theorem firstReading_shown (first : zone.isSecondPass u = false) :
    zone.firstReading (u + zone.offsetAt u) = u := by
  rw [firstReading, ← first, spaced.wallOffset_isSecondPass]
  omega

/-- Local time does not reach a wall second before its first reading, unless the wall second is within
a stretch that is skipped. -/
theorem firstReading_le (whole : ∀ t, ¬ zone.SkipsInside t s) (reached : s ≤ u + zone.offsetAt u) :
    zone.firstReading s ≤ u := by
  obtain ⟨t, before, after, turns⟩ := spaced.turns_around s
  have beforeBounds := turns.before_bounds
  have afterBounds := turns.after_bounds
  have upper := zone.offsetAt_upper u
  have notInside := whole t
  rw [SkipsInside, turns.offset_just_before, turns.offset_at] at notInside
  rw [firstReading, turns.wallOffset_eq, if_neg Bool.false_ne_true]
  rcases Int.lt_or_le (s + 86400) u with far | near
  · split <;> omega
  rcases Int.lt_or_le u t with early | late
  · rw [turns.offset_before u (by omega) early] at reached
    split <;> omega
  · rw [turns.offset_after u late near] at reached
    split <;> omega

/-- From the first reading of a wall second on local time is not before it, unless the wall second is
within a stretch that is repeated. -/
theorem le_of_firstReading_le (whole : ∀ t, ¬ zone.RepeatsInside t s)
    (reached : zone.firstReading s ≤ u) : s ≤ u + zone.offsetAt u := by
  obtain ⟨t, before, after, turns⟩ := spaced.turns_around s
  have beforeBounds := turns.before_bounds
  have lower := zone.lower_offsetAt u
  have notInside := whole t
  rw [RepeatsInside, turns.offset_just_before, turns.offset_at] at notInside
  rw [firstReading, turns.wallOffset_eq, if_neg Bool.false_ne_true] at reached
  rcases Int.lt_or_le (s + 86400) u with far | near
  · omega
  rcases Int.lt_or_le u t with early | late
  · rw [turns.offset_before u (by split at reached <;> omega) early]
    split at reached <;> omega
  · rw [turns.offset_after u late near]
    split at reached <;> omega

/-- Local time passes a wall second that no change jumps over at its first reading. -/
theorem firstReading_le_iff (whole : ∀ t, ¬ zone.SkipsInside t s ∧ ¬ zone.RepeatsInside t s) :
    zone.firstReading s ≤ u ↔ s ≤ u + zone.offsetAt u :=
  ⟨spaced.le_of_firstReading_le fun t => (whole t).2,
    spaced.firstReading_le fun t => (whole t).1⟩

/-- Just before a wall second is first read local time is not before any wall second that was shown
since, reckoned by a whole day. -/
theorem le_before_firstReading {s' : Int} (reached : s ≤ u + zone.offsetAt u)
    (notYet : u + zone.offsetAt u < s') (apart : s + 86400 ≤ s') :
    s ≤ zone.firstReading s' - 1 + zone.offsetAt (zone.firstReading s' - 1) := by
  obtain ⟨t, before, after, turns⟩ := spaced.turns_around s'
  have beforeBounds := turns.before_bounds
  have afterBounds := turns.after_bounds
  have small := spaced.small t
  -- a change that skips the whole day before `s'` would skip what is shown at `u`
  have shown := spaced.not_skips_shown t u
  rw [Skips] at shown
  rw [turns.offset_just_before, turns.offset_at] at small shown
  have reading : zone.firstReading s' = s' - if s' < t + max before after then before else after := by
    rw [firstReading, turns.wallOffset_eq, if_neg Bool.false_ne_true]
  rcases Int.lt_or_le (zone.firstReading s' - 1) t with early | late
  · rw [turns.offset_before _ (by split at reading <;> omega) early]
    split at reading <;> omega
  · rw [turns.offset_after _ late (by split at reading <;> omega)]
    split at reading <;> omega

/-! ## Order -/

/-- Among first showings, and among second showings, local time keeps the order of universal time. -/
theorem local_lt_local {u' : Int} (less : u < u')
    (samePass : zone.isSecondPass u = zone.isSecondPass u') :
    u + zone.offsetAt u < u' + zone.offsetAt u' := by
  refine Int.not_le.mp fun inverted => ?_
  have upper := zone.offsetAt_upper u
  have lower' := zone.lower_offsetAt u'
  obtain ⟨t, before, after, turns⟩ := spaced.exists_turns less (by omega)
  have afterFirst := turns.after_first
  have uptoLast := turns.upto_last
  have offsetBefore := turns.offset_just_before
  have offsetAfter := turns.offset_at
  rw [turns.offset_before u (Int.le_refl _) afterFirst,
    turns.offset_after u' uptoLast (Int.le_refl _)] at inverted
  -- the clock was set back between the two, so the later of them is a second showing
  have second' : zone.isSecondPass u' = true := by
    refine (spaced.isSecondPass_iff u').mpr ⟨t, uptoLast, fun _ => turns.not_changesAt, ?_⟩
    rw [turns.offset_after u' uptoLast (Int.le_refl _), offsetBefore]
    omega
  -- and if the earlier is one too, the clock was set back just before
  obtain ⟨t', late, changes', -, steady, notYet⟩ :=
    spaced.exists_change_of_isSecondPass (samePass.trans second')
  have small := spaced.small t
  have small' := spaced.small t'
  have changes : zone.ChangesAt t := by
    rw [ChangesAt]
    omega
  have := spaced.apart changes' changes (by omega)
  omega

end Spaced

end Zone

end RelativeTime
