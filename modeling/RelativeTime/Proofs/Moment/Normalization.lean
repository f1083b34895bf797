import RelativeTime.Proofs.Moment.ClockAddition
import RelativeTime.Proofs.Moment.Limits
import RelativeTime.Proofs.Zone.MarkedReadings

/-!
# Normalising a moment

`Moment.normalize` gives the local form of the instant that a moment stands for. In a zone whose changes are
spaced that is a retraction: a local form is its own (`normalize_normalize`), and of what else can stand for
an instant there are only wall times that are skipped (`ofInstant_instant_of_skips`) and marks of wall times
that are shown once (`ofInstant_instant_of_shownOnce`). A moment at a repeated wall time is a local form with
either mark (`ofInstant_instant_of_repeats`). Universal time is the exception: its moments are not converted,
so a mark stays on them (`normalize_keeps_mark`).
-/

namespace RelativeTime

namespace Moment

variable {zone : Zone} {v w : Moment} {u t wall : Int}

/-! ## The instant of a moment -/

section

variable (inZone : v.zone = some zone)
include inZone

theorem instant_eq :
    v.instant = v.wall - zone.wallOffset (v.wall / perSecond) v.secondPass * perSecond := by
  rw [instant, offset?, inZone]
  rfl

/-- The second of the instant is that which the wall second is read as. -/
theorem instant_div : v.instant / perSecond = zone.readAs (v.wall / perSecond) v.secondPass := by
  rw [instant_eq inZone, Zone.readAs]
  simp only [perSecond]
  omega

theorem instant_emod : v.instant % perSecond = v.wall % perSecond := by
  rw [instant_eq inZone]
  simp only [perSecond]
  omega

end

theorem normalize_eq_ok_iff (inZone : v.zone = some zone) : v.normalize = .ok w ↔
    (InRange v.instant ∧ InRange (ofInstant zone v.instant).wall) ∧
      w = if zone.isUniversal then v else ofInstant zone v.instant :=
  (succeedsIf_normalize inZone).eq_ok_iff

/-- A moment of universal time is normal as it is, whether it is marked or not. -/
theorem eq_of_normalize_of_isUniversal (universal : zone.isUniversal = true) (inZone : v.zone = some zone)
    (normalized : v.normalize = .ok w) : w = v := by
  obtain ⟨-, rfl⟩ := (normalize_eq_ok_iff inZone).mp normalized
  exact if_pos universal

/-- A moment stands for the same instant afterwards. -/
theorem instant_of_normalize (spaced : zone.Spaced) (inZone : v.zone = some zone)
    (normalized : v.normalize = .ok w) : w.instant = v.instant := by
  cases universal : zone.isUniversal with
  | true => rw [eq_of_normalize_of_isUniversal universal inZone normalized]
  | false =>
    rw [eq_of_normalize inZone normalized fun _ => universal]
    exact instant_ofInstant spaced _

theorem normalize_normalize (spaced : zone.Spaced) (inZone : v.zone = some zone)
    (normalized : v.normalize = .ok w) : w.normalize = .ok w := by
  cases universal : zone.isUniversal with
  | true =>
    obtain rfl := eq_of_normalize_of_isUniversal universal inZone normalized
    exact normalized
  | false =>
    have instant := instant_of_normalize spaced inZone normalized
    obtain ⟨inRange, -⟩ := (normalize_eq_ok_iff inZone).mp normalized
    obtain rfl := eq_of_normalize inZone normalized fun _ => universal
    rw [normalize_eq_ok_iff rfl, instant]
    exact ⟨inRange, (if_neg (by simp [universal])).symm⟩

/-! ## Marks and repeated wall times -/

theorem secondPass_iff_repeats (spaced : zone.Spaced) : (ofInstant zone u).secondPass = true ↔
    ∃ t, zone.Repeats t ((ofInstant zone u).wall / perSecond) ∧ t * perSecond ≤ u := by
  change zone.isSecondPass (u / perSecond) = true ↔ _
  rw [spaced.isSecondPass_iff_repeats, wall_ofInstant_div]
  refine exists_congr fun t => ?_
  have late : t ≤ u / perSecond ↔ t * perSecond ≤ u := by
    simp only [perSecond]
    omega
  rw [late, and_comm]

/-! ## The local form of a moment's instant -/

/-- It is given by what the clock shows and by whether that is a second showing. -/
theorem ofInstant_instant_eq (inZone : v.zone = some zone) {secondPass : Bool}
    (shown : (ofInstant zone v.instant).wall = wall)
    (pass : zone.isSecondPass (zone.readAs (v.wall / perSecond) v.secondPass) = secondPass) :
    ofInstant zone v.instant = ⟨wall, secondPass, v.zone⟩ := by
  rw [← shown, ← pass, ← instant_div inZone, inZone]
  rfl

section

variable (spaced : zone.Spaced) (inZone : v.zone = some zone)
include spaced inZone

theorem wall_ofInstant_instant (unskipped : ∀ t, ¬ zone.Skips t (v.wall / perSecond)) :
    (ofInstant zone v.instant).wall = v.wall := by
  refine wall_ofInstant_eq_iff.mpr ⟨?_, instant_emod inZone⟩
  rw [instant_div inZone]
  exact spaced.local_readAs unskipped v.secondPass

/-- A moment at a repeated wall time is a local form, whichever showing is meant. -/
theorem ofInstant_instant_of_repeats (repeats : zone.Repeats t (v.wall / perSecond)) :
    ofInstant zone v.instant = v := by
  have unskipped : ∀ t', ¬ zone.Skips t' (v.wall / perSecond) := fun _ =>
    spaced.not_skips_of_repeats repeats
  exact ofInstant_instant_eq inZone (wall_ofInstant_instant spaced inZone unskipped)
    (spaced.isSecondPass_readAs_of_repeats repeats v.secondPass)

/-- At a wall time that is shown once there is nothing for a mark to choose. -/
theorem ofInstant_instant_of_shownOnce (once : zone.ShownOnce (v.wall / perSecond)) :
    ofInstant zone v.instant = { v with secondPass := false } :=
  ofInstant_instant_eq inZone
    (wall_ofInstant_instant spaced inZone (spaced.not_skips_of_shownOnce once))
    (spaced.isSecondPass_readAs_of_shownOnce once v.secondPass)

/-- In place of a skipped wall time a later one is shown, by the length of the skipped stretch, or if it is
marked an earlier one. -/
theorem ofInstant_instant_of_skips (skips : zone.Skips t (v.wall / perSecond)) :
    ofInstant zone v.instant =
      { v with
        wall :=
          if v.secondPass then v.wall - (zone.offsetAt t - zone.offsetAt (t - 1)) * perSecond
          else v.wall + (zone.offsetAt t - zone.offsetAt (t - 1)) * perSecond
        secondPass := false } := by
  refine ofInstant_instant_eq inZone ?_ (spaced.isSecondPass_readAs_of_skips skips v.secondPass)
  change v.instant + zone.offsetAt (v.instant / perSecond) * perSecond = _
  rw [instant_div inZone, spaced.offsetAt_readAs_of_skips skips, instant_eq inZone,
    spaced.wallOffset_of_skips skips, Int.sub_mul]
  -- the instant is reckoned with one offset and shown with the other
  cases v.secondPass with
  | false =>
    simp only [Bool.false_eq_true, if_false]
    omega
  | true =>
    simp only [if_true]
    omega

end

/-! ## Normal forms -/

/-- Universal time has no second showings. -/
theorem not_repeated_of_isUniversal (universal : zone.isUniversal = true) {u s : Int} :
    ¬ ∃ t, zone.Repeats t s ∧ t * perSecond ≤ u := by
  rintro ⟨t, ⟨reached, notOver⟩, -⟩
  rw [Zone.offsetAt_of_isUniversal universal] at reached notOver
  omega

/-- A moment is normalised if its instant and the local form of that lie in the supported years. The result
stands for the same instant, is shown, and is marked exactly if it is a second showing or a moment of
universal time that was marked before. A wall time that is shown stays as it is, but for a mark where there is
only one showing; a skipped one becomes later by the length of the skipped stretch, or if it is marked
earlier. A moment of universal time stays as it is with its mark. To normalise again changes nothing. -/
theorem normalize_retracts (spaced : zone.Spaced) {v : Moment} (inZone : v.zone = some zone) :
    ((∃ w, v.normalize = .ok w) ↔ InRange v.instant ∧ InRange (ofInstant zone v.instant).wall) ∧
    ∀ w, v.normalize = .ok w →
      w.instant = v.instant ∧
      w = { ofInstant zone w.instant with secondPass := w.secondPass } ∧
      (w.secondPass = true ↔
        (∃ t, zone.Repeats t (w.wall / perSecond) ∧ t * perSecond ≤ w.instant) ∨
          zone.isUniversal = true ∧ v.secondPass = true) ∧
      ((∃ u, (ofInstant zone u).wall = v.wall) →
        w = v ∨ w = { v with secondPass := false } ∧ zone.ShownOnce (v.wall / perSecond)) ∧
      ((∀ u, (ofInstant zone u).wall ≠ v.wall) → ∃ t, zone.Skips t (v.wall / perSecond) ∧
        w = { v with
          wall :=
            if v.secondPass then v.wall - (zone.offsetAt t - zone.offsetAt (t - 1)) * perSecond
            else v.wall + (zone.offsetAt t - zone.offsetAt (t - 1)) * perSecond
          secondPass := false }) ∧
      (zone.isUniversal = true → w = v) ∧
      w.normalize = .ok w := by
  refine ⟨?_, fun w normalized => ?_⟩
  · simp only [normalize_eq_ok_iff inZone, exists_and_left, exists_eq, and_true]
  have again := normalize_normalize spaced inZone normalized
  have instant := instant_of_normalize spaced inZone normalized
  cases universal : zone.isUniversal with
  | true =>
    obtain rfl := eq_of_normalize_of_isUniversal universal inZone normalized
    have shown : (ofInstant zone w.instant).wall = w.wall := by
      rw [ofInstant_of_isUniversal universal, instant_of_isUniversal universal inZone]
    refine ⟨instant, ?_, ?_, fun _ => .inl rfl, fun never => absurd shown (never _), fun _ => rfl, again⟩
    · rw [ofInstant_of_isUniversal universal, instant_of_isUniversal universal inZone, ← inZone]
    · rw [or_iff_right (not_repeated_of_isUniversal universal), and_iff_right rfl]
  | false =>
    obtain rfl := eq_of_normalize inZone normalized fun _ => universal
    refine ⟨instant, by rw [instant], ?_, fun shown => ?_, fun never => ?_,
      fun impossible => absurd impossible Bool.false_ne_true, again⟩
    · rw [instant, or_iff_left (by simp)]
      exact secondPass_iff_repeats spaced
    · by_cases repeated : ∃ t, zone.Repeats t (v.wall / perSecond)
      · obtain ⟨t, repeats⟩ := repeated
        exact .inl (ofInstant_instant_of_repeats spaced inZone repeats)
      · obtain ⟨u, shown⟩ := shown
        have once := spaced.shownOnce_of_not_repeats (wall_ofInstant_eq_iff.mp shown).1
          (not_exists.mp repeated)
        exact .inr ⟨ofInstant_instant_of_shownOnce spaced inZone once, once⟩
    · obtain ⟨t, skips⟩ := skipped_of_not_shown spaced never
      exact ⟨t, skips, ofInstant_instant_of_skips spaced inZone skips⟩

/-- The second showing of 02:30 on October 27th, 2024, on the clocks of `hourChanges`. -/
def repeatedHalfPastTwo : Moment :=
  ⟨(epoch1970 + 1729996200) * perSecond, true, some hourChanges⟩

/-- Ten o'clock on March 15th, 2024, in universal time, with a mark. -/
def markedTen : Moment :=
  ⟨(epoch1970 + 1710496800) * perSecond, true, some .universal⟩

/-- The skipped 02:30 becomes 01:30 if it is marked and 03:30 if it is not, and the second showing of the
repeated 02:30 stays what it is. So does ten o'clock in universal time, although there is only one. -/
theorem normalize_half_past_two :
    hourChanges.Spaced ∧ skippedHalfPastTwo.zone = some hourChanges ∧
      repeatedHalfPastTwo.zone = some hourChanges ∧
      skippedHalfPastTwo.normalize =
        .ok ⟨(epoch1970 + 1711848600) * perSecond, false, some hourChanges⟩ ∧
      (⟨(epoch1970 + 1711848600) * perSecond, false, some hourChanges⟩ : Moment).instant =
        skippedHalfPastTwo.instant ∧
      normalize { skippedHalfPastTwo with secondPass := false } =
        .ok ⟨(epoch1970 + 1711855800) * perSecond, false, some hourChanges⟩ ∧
      normalize ⟨(epoch1970 + 1711855800) * perSecond, false, some hourChanges⟩ =
        .ok ⟨(epoch1970 + 1711855800) * perSecond, false, some hourChanges⟩ ∧
      repeatedHalfPastTwo.normalize = .ok repeatedHalfPastTwo ∧
      (∃ t, hourChanges.Repeats t (repeatedHalfPastTwo.wall / perSecond) ∧
        t * perSecond ≤ repeatedHalfPastTwo.instant) ∧
      Zone.universal.Spaced ∧ markedTen.zone = some .universal ∧ markedTen.normalize = .ok markedTen := by
  have marked : skippedHalfPastTwo.normalize =
      .ok ⟨(epoch1970 + 1711848600) * perSecond, false, some hourChanges⟩ := rfl
  have unmarked : normalize { skippedHalfPastTwo with secondPass := false } =
      .ok ⟨(epoch1970 + 1711855800) * perSecond, false, some hourChanges⟩ := rfl
  have second : repeatedHalfPastTwo.normalize = .ok repeatedHalfPastTwo := rfl
  have universal : Zone.universal.Spaced := (Zone.steady_of_isUniversal rfl).spaced
  obtain ⟨-, earlier⟩ := normalize_retracts spaced_hourChanges (v := skippedHalfPastTwo) rfl
  obtain ⟨-, later⟩ :=
    normalize_retracts spaced_hourChanges (v := { skippedHalfPastTwo with secondPass := false }) rfl
  obtain ⟨-, same⟩ := normalize_retracts spaced_hourChanges (v := repeatedHalfPastTwo) rfl
  obtain ⟨succeeds, kept⟩ := normalize_retracts universal (v := markedTen) rfl
  obtain ⟨ten, normalized⟩ := succeeds.mpr (by decide)
  obtain rfl := (kept _ normalized).2.2.2.2.2.1 rfl
  refine ⟨spaced_hourChanges, rfl, rfl, marked, (earlier _ marked).1, unmarked,
    (later _ unmarked).2.2.2.2.2.2, second, ?_, universal, rfl, normalized⟩
  exact ((same _ second).2.2.1.mp rfl).resolve_right nofun

/-- Ten o'clock in universal time keeps its mark, and so does half past ten on the way to the start of its
hour. Neither is a second showing. -/
theorem normalize_keeps_mark :
    markedTen.normalize = .ok markedTen ∧
      round (.clock .hour) .down { markedTen with wall := markedTen.wall + 1800 * perSecond } =
        .ok markedTen ∧
      markedTen.secondPass = true ∧
      ¬ ∃ t, Zone.universal.Repeats t (markedTen.wall / perSecond) ∧
        t * perSecond ≤ markedTen.instant :=
  ⟨rfl, rfl, rfl, not_repeated_of_isUniversal rfl⟩

end Moment

end RelativeTime
