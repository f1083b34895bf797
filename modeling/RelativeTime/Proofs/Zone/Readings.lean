import Mathlib.Logic.ExistsUnique
import RelativeTime.Proofs.Zone.Showings

/-!
# How a wall second is read

`Zone.reading` computes from two offsets whether a wall second is shown once, twice or never. In a zone
whose changes are spaced the answer is a matter of the change that is near: a wall second is repeated by
a change that sets the clock back, skipped by one that sets it forward, or shown at one second of
universal time only.

That a wall second which is shown once is read as such needs less of a zone than spaced changes. It is
enough that local time can be read back at all (`Zone.ReadsBack`).
-/

namespace RelativeTime

namespace Zone

/-- The change at `t` shows wall second `s` for the second time. -/
def Repeats (zone : Zone) (t s : Int) : Prop :=
  t + zone.offsetAt t ≤ s ∧ s < t + zone.offsetAt (t - 1)

/-- Wall second `s` is neither skipped nor repeated. -/
def ShownOnce (zone : Zone) (s : Int) : Prop :=
  ∃! u, u + zone.offsetAt u = s

/-- The offset never changes. -/
def Steady (zone : Zone) (offset : Int) : Prop :=
  ∀ u, zone.offsetAt u = offset

variable {zone : Zone} {s t u offset : Int}

theorem Repeats.changesAt (repeats : zone.Repeats t s) : zone.ChangesAt t := by
  obtain ⟨reached, notOver⟩ := repeats
  rw [ChangesAt]
  omega

/-! ## Wall seconds that are shown once -/

theorem shows_of_reading_twice {first second : Int} (reading : zone.reading s = .twice first second) :
    first ≠ second ∧ zone.Shows s first ∧ zone.Shows s second := by
  simp only [Zone.reading] at reading
  split at reading
  case isTrue => contradiction
  case isFalse different =>
    split at reading
    case isTrue showsBefore =>
      split at reading
      case isTrue showsAfter =>
        obtain ⟨rfl, rfl⟩ := WallReading.twice.inj reading
        exact ⟨different, showsBefore, showsAfter⟩
      case isFalse => contradiction
    case isFalse => split at reading <;> contradiction

theorem not_shows_of_reading_never {before after : Int}
    (reading : zone.reading s = .never before after) : ¬ zone.Shows s before := by
  simp only [Zone.reading] at reading
  split at reading
  case isTrue => contradiction
  case isFalse =>
    split at reading
    case isTrue => split at reading <;> contradiction
    case isFalse notBefore =>
      split at reading
      case isTrue => contradiction
      case isFalse =>
        obtain ⟨rfl, rfl⟩ := WallReading.never.inj reading
        exact notBefore

theorem ReadsBack.reading_of_shownOnce (readsBack : zone.ReadsBack) (once : zone.ShownOnce s)
    (shown : u + zone.offsetAt u = s) : zone.reading s = .once (zone.offsetAt u) := by
  have only : ∀ {offset}, zone.Shows s offset → s - offset = u := by
    intro offset shows
    refine once.unique ?_ shown
    rw [show zone.offsetAt (s - offset) = offset from shows, Int.sub_add_cancel]
  have reads := readsBack u
  rw [isSecondPass, shown] at reads
  -- the other two readings would have another showing, or none at all
  cases reading : zone.reading s with
  | once offset =>
    rw [wallOffset, reading] at reads
    exact congrArg WallReading.once reads
  | twice first second =>
    obtain ⟨different, showsFirst, showsSecond⟩ := shows_of_reading_twice reading
    have := only showsFirst
    have := only showsSecond
    omega
  | never before after =>
    rw [wallOffset, reading] at reads
    have same : before = zone.offsetAt u := reads
    refine absurd ?_ (not_shows_of_reading_never reading)
    rw [Shows, same, ← shown, Int.add_sub_cancel]

theorem ReadsBack.exists_reading (readsBack : zone.ReadsBack) (once : zone.ShownOnce s) :
    ∃ offset, zone.reading s = .once offset := by
  obtain ⟨u, shown⟩ := once.exists
  exact ⟨_, readsBack.reading_of_shownOnce once shown⟩

theorem Shows.shown (shows : zone.Shows s offset) :
    s - offset + zone.offsetAt (s - offset) = s := by
  rw [shows, Int.sub_add_cancel]

theorem ReadsBack.reading_of_shows (readsBack : zone.ReadsBack) (once : zone.ShownOnce s)
    (shows : zone.Shows s offset) : zone.reading s = .once offset := by
  rw [readsBack.reading_of_shownOnce once shows.shown, shows]

/-! ## Zones without changes -/

section

variable (steady : zone.Steady offset)
include steady

theorem Steady.reading_eq (s : Int) : zone.reading s = .once offset := by
  rw [reading, steady, steady, if_pos rfl]

theorem Steady.wallOffset_eq (s : Int) (secondPass : Bool) :
    zone.wallOffset s secondPass = offset := by
  rw [wallOffset, steady.reading_eq, WallReading.offset]

theorem Steady.readsBack : zone.ReadsBack := by
  intro u
  rw [steady.wallOffset_eq, steady]

theorem Steady.shownOnce (s : Int) : zone.ShownOnce s := by
  refine ⟨s - offset, ?_, fun u (shown : u + zone.offsetAt u = s) => ?_⟩
  · simp only [steady (s - offset), Int.sub_add_cancel]
  · rw [steady] at shown
    omega

end

theorem Steady.spaced (steady : zone.Steady offset) : zone.Spaced where
  apart changes := absurd ((steady _).trans (steady _).symm) changes
  small t := by
    rw [steady, steady]
    omega

theorem steady_of_isUniversal (universal : zone.isUniversal = true) : zone.Steady 0 :=
  offsetAt_of_isUniversal universal

theorem steady_fixed (offset : UtcOffset) : (fixed offset).Steady offset.seconds :=
  fun _ => rfl

/-! ## Spaced changes -/

namespace Spaced

variable (spaced : zone.Spaced)
include spaced

theorem reading_of_skips (skips : zone.Skips t s) :
    zone.reading s = .never (zone.offsetAt (t - 1)) (zone.offsetAt t) := by
  have turns := spaced.turns_of_skips skips
  obtain ⟨reached, notYet⟩ := skips
  rw [turns.reading_eq, if_neg (by omega), if_neg (by omega), if_neg (by omega)]

theorem turns_of_repeats (repeats : zone.Repeats t s) :
    zone.Turns (s - 86400) (s + 86400) t (zone.offsetAt (t - 1)) (zone.offsetAt t) := by
  have lower := zone.lower_offsetAt t
  have upper := zone.offsetAt_upper (t - 1)
  have changes := repeats.changesAt
  obtain ⟨reached, notOver⟩ := repeats
  exact spaced.turns_at changes (by omega) (by omega) (by omega)

theorem reading_of_repeats (repeats : zone.Repeats t s) :
    zone.reading s = .twice (zone.offsetAt (t - 1)) (zone.offsetAt t) := by
  have turns := spaced.turns_of_repeats repeats
  obtain ⟨reached, notOver⟩ := repeats
  rw [turns.reading_eq, if_neg (by omega), if_pos (by omega), if_pos (by omega)]

theorem eq_of_repeats {t' : Int} (repeats : zone.Repeats t s) (repeats' : zone.Repeats t' s) :
    t = t' := by
  have turns := spaced.turns_of_repeats repeats
  have turns' := spaced.turns_of_repeats repeats'
  rcases Int.lt_trichotomy t t' with earlier | same | later
  · exact absurd repeats'.changesAt (turns.not_changesAt earlier turns'.upto_last)
  · exact same
  · exact absurd repeats.changesAt (turns'.not_changesAt later turns.upto_last)

/-- A repeated wall second is shown before the change under the old offset and then under the new. -/
theorem offsetAt_of_repeats (repeats : zone.Repeats t s) (shown : u + zone.offsetAt u = s) :
    zone.offsetAt u = if u < t then zone.offsetAt (t - 1) else zone.offsetAt t :=
  (spaced.turns_of_repeats repeats).offsetAt_eq shown

/-- What is shown at two seconds is repeated by the change between them. -/
theorem shownOnce_of_not_repeats (shown : u + zone.offsetAt u = s)
    (never : ∀ t, ¬ zone.Repeats t s) : zone.ShownOnce s := by
  have noEarlier : ∀ {w w'}, w + zone.offsetAt w = s → w' + zone.offsetAt w' = s → ¬ w < w' := by
    intro w w' shows shows' earlier
    have second : zone.isSecondPass w' = true :=
      spaced.isSecondPass_iff_shown_before.mpr ⟨w, earlier, shows.trans shows'.symm⟩
    obtain ⟨t, late, -, -, steady, notYet⟩ := spaced.exists_change_of_isSecondPass second
    refine never t ⟨?_, ?_⟩ <;> omega
  refine ⟨u, shown, fun w shows => ?_⟩
  have := noEarlier shows shown
  have := noEarlier shown shows
  omega

theorem shownOnce_of_reading (reading : zone.reading s = .once offset) : zone.ShownOnce s := by
  rcases spaced.shown_or_skipped s with ⟨u, shown⟩ | ⟨t, skips⟩
  · refine spaced.shownOnce_of_not_repeats shown fun t repeats => ?_
    rw [spaced.reading_of_repeats repeats] at reading
    contradiction
  · rw [spaced.reading_of_skips skips] at reading
    contradiction

end Spaced

/-! ## The end of a skipped stretch -/

/-- Halving closes in on the one second at which the offset begins to be the wanted one. -/
theorem firstSecondWith_eq {low : Int} {width : Nat} (after : low < t) (upto : t ≤ low + width)
    (notBefore : ∀ u, low ≤ u → u < t → zone.offsetAt u ≠ offset)
    (fromThen : ∀ u, t ≤ u → u ≤ low + width → zone.offsetAt u = offset) :
    zone.firstSecondWith offset low width = t := by
  fun_induction firstSecondWith zone offset low width with
  | case1 low width short => omega
  | case2 low width long half reached inductionHypothesis =>
    have inFirstHalf : t ≤ low + half := by
      refine Int.not_lt.mp fun later => ?_
      exact notBefore _ (by omega) later reached
    exact inductionHypothesis after inFirstHalf notBefore
      fun u lower upper => fromThen u lower (by omega)
  | case3 low width long half notReached inductionHypothesis =>
    have inSecondHalf : low + half < t := by
      refine Int.not_le.mp fun earlier => ?_
      exact notReached (fromThen _ earlier (by omega))
    exact inductionHypothesis inSecondHalf (by omega)
      (fun u lower upper => notBefore u (by omega) upper)
      fun u lower upper => fromThen u lower (by omega)

/-- A skipped wall second is made up for at the change that skips it. -/
theorem Spaced.skipSecond_of_skips (spaced : zone.Spaced) (skips : zone.Skips t s) :
    zone.skipSecond s (zone.offsetAt (t - 1)) (zone.offsetAt t) = t := by
  have turns := spaced.turns_of_skips skips
  have lower := zone.lower_offsetAt (t - 1)
  have upper := zone.offsetAt_upper t
  obtain ⟨reached, notYet⟩ := skips
  refine firstSecondWith_eq (by omega) (by omega) (fun u after before => ?_)
    fun u after upto => turns.offset_after u after (by omega)
  rw [turns.offset_before u (by omega) before]
  omega

end Zone

end RelativeTime
