import RelativeTime.Proofs.Moment.UnitScales
import RelativeTime.Proofs.Parser.SteadyClock
import RelativeTime.Proofs.Stamp.SteadyRounding
import RelativeTime.Proofs.Unit.Nesting

/-!
# Rounding to units within units

Where the periods of one unit are made of whole periods of another, rounding to the coarser one makes
rounding to the finer one superfluous, before it or after it. Both adapters follow the wall on a clock
without changes, so this comes down to the ticks on the wall (`TimeUnit.Nested.roundAt_roundAt` and
`TimeUnit.Nested.roundAt_bound`).
-/

namespace RelativeTime

variable {υ τ ζ ε : Type}

/-- Rounding to the coarser unit comes to the same after a rounding to the finer one and before it, as long
as there are results. -/
def Adapter.Absorbs (adapter : Adapter υ τ ζ ε) (context : Context ζ) (fine coarse : υ) (time : τ) :
    Prop :=
  ∀ direction finer coarser, adapter.round fine direction time context = .ok finer →
    adapter.round coarse direction time context = .ok coarser →
      (∀ after, adapter.round coarse direction finer context = .ok after → after = coarser) ∧
        ∀ after, adapter.round fine direction coarser context = .ok after → after = coarser

section

variable {zone : Zone} {offset : Int} {fine coarse : TimeUnit} (nested : fine.Nested coarse)
  (now : Instant) (context : Context ZoneRef)
include nested

/-- A rounding to the finer unit in front of the coarser one takes no mark that the coarser one would keep. -/
theorem Moment.keptMark_of_finer {v finer : Moment} {kept : Bool} (inZone : v.zone = some zone)
    (finerIn : finer.zone = some zone) (mark : finer.secondPass = (kept && keptMark fine v)) :
    (kept && keptMark coarse finer) = (kept && keptMark coarse v) := by
  cases coarse with
  | calendar coarse => rfl
  | clock coarse =>
    obtain ⟨fine, rfl⟩ := nested.exists_clock rfl
    rw [keptMark_clock inZone] at mark ⊢
    rw [keptMark_clock finerIn, mark]
    cases kept <;> cases zone.isUniversal <;> simp

/-- A rounding to the finer unit after the coarser one keeps what mark there is. -/
theorem Moment.keptMark_of_coarser {v coarser : Moment} {kept : Bool} (inZone : v.zone = some zone)
    (coarserIn : coarser.zone = some zone) (mark : coarser.secondPass = (kept && keptMark coarse v)) :
    (kept && keptMark fine coarser) = (kept && keptMark coarse v) := by
  cases coarse with
  | calendar coarse =>
    have unmarked : coarser.secondPass = false := mark.trans (Bool.and_false kept)
    rw [keptMark_of_unmarked unmarked, keptMark]
  | clock coarse =>
    obtain ⟨fine, rfl⟩ := nested.exists_clock rfl
    rw [keptMark_clock inZone] at mark ⊢
    rw [keptMark_clock coarserIn, mark]
    cases kept <;> cases zone.isUniversal <;> simp

theorem Moment.adapter_absorbs [ZoneDatabase] (steady : zone.Steady offset) {v : Moment}
    (inZone : v.zone = some zone) :
    (Moment.adapter now).Absorbs context fine coarse v := by
  intro direction finer coarser roundedFine roundedCoarse
  have showsFiner : Shows zone finer _ :=
    Shows.round steady ⟨inZone, rfl⟩ (eq_of_mapError_eq_ok roundedFine)
  have showsCoarser : Shows zone coarser _ :=
    Shows.round steady ⟨inZone, rfl⟩ (eq_of_mapError_eq_ok roundedCoarse)
  have markFiner := secondPass_of_round steady inZone (eq_of_mapError_eq_ok roundedFine)
  have markCoarser := secondPass_of_round steady inZone (eq_of_mapError_eq_ok roundedCoarse)
  constructor
  · intro after rounded
    have shows := showsFiner.round steady (eq_of_mapError_eq_ok rounded)
    rw [nested.roundAt_roundAt (by decide)] at shows
    -- the wall times are the same, and a mark that universal time keeps is kept on both ways
    refine shows.eq showsCoarser ?_
    rw [secondPass_of_round steady showsFiner.1 (eq_of_mapError_eq_ok rounded), markCoarser]
    exact keptMark_of_finer nested inZone showsFiner.1 markFiner
  · intro after rounded
    have shows := showsCoarser.round steady (eq_of_mapError_eq_ok rounded)
    rw [nested.roundAt_bound (by decide)] at shows
    refine shows.eq showsCoarser ?_
    rw [secondPass_of_round steady showsCoarser.1 (eq_of_mapError_eq_ok rounded), markCoarser]
    exact keptMark_of_coarser nested inZone showsCoarser.1 markCoarser

theorem Stamp.adapter_absorbs [ZoneDatabase] {v : Stamp} (steady : OnSteadyClock offset v) :
    (Stamp.adapter now).Absorbs context fine coarse v := by
  intro direction finer coarser roundedFine roundedCoarse
  obtain rfl := steady.eq_of_round (eq_of_mapError_eq_ok roundedFine)
  obtain rfl := steady.eq_of_round (eq_of_mapError_eq_ok roundedCoarse)
  constructor
  · intro after rounded
    rw [(steady.ofBound fine direction).eq_of_round (eq_of_mapError_eq_ok rounded)]
    exact steady.steadyBound_steadyBound (nested.roundAt_roundAt (by decide) direction v.wall)
  · intro after rounded
    rw [(steady.ofBound coarse direction).eq_of_round (eq_of_mapError_eq_ok rounded)]
    exact steady.steadyBound_steadyBound (nested.roundAt_bound (by decide) direction v.wall)

end

/-- On a clock without changes rounding to a unit makes rounding to a finer one in the same direction
superfluous, before it or after it, over moments and over stamps. -/
theorem coarser_rounding_absorbs_finer [ZoneDatabase] {fine coarse : TimeUnit} (nested : fine.Nested coarse)
    (now : Instant) (context : Context ZoneRef) :
    (∀ {zone : Zone} {offset : Int} {v : Moment}, zone.Steady offset → v.zone = some zone →
      (Moment.adapter now).Absorbs context fine coarse v) ∧
    ∀ {offset : Int} {v : Stamp}, v.OnSteadyClock offset →
      (Stamp.adapter now).Absorbs context fine coarse v :=
  ⟨fun steady inZone => Moment.adapter_absorbs nested now context steady inZone,
    fun steady => Stamp.adapter_absorbs nested now context steady⟩

/-- A moment after a midnight on the clocks of `Moment.fourteenAhead`. -/
def afterMidnightOf (date : Calendar.Date) (micros : Int) : Moment :=
  { Moment.midnightOf date with wall := (Moment.midnightOf date).wall + micros }

/-- The year of a leap day ends with an hour on the clocks of `Moment.fourteenAhead`, and 1970 ends with one
on those of `Stamp.quarterHourClocks`. -/
theorem year_absorbs_hour :
    (TimeUnit.clock .hour).Nested (.calendar .year) ∧ Moment.fourteenAhead.Steady 50400 ∧
      (afterMidnightOf ⟨2024, 2, 29⟩ 1).zone = some Moment.fourteenAhead ∧
      Moment.round (.clock .hour) .up (afterMidnightOf ⟨2024, 2, 29⟩ 1) =
        .ok (afterMidnightOf ⟨2024, 2, 29⟩ 3599999999) ∧
      Moment.round (.calendar .year) .up (afterMidnightOf ⟨2024, 2, 29⟩ 1) =
        .ok (afterMidnightOf ⟨2025, 1, 1⟩ (-1)) ∧
      Moment.round (.calendar .year) .up (afterMidnightOf ⟨2024, 2, 29⟩ 3599999999) =
        .ok (afterMidnightOf ⟨2025, 1, 1⟩ (-1)) ∧
      Moment.round (.clock .hour) .up (afterMidnightOf ⟨2025, 1, 1⟩ (-1)) =
        .ok (afterMidnightOf ⟨2025, 1, 1⟩ (-1)) ∧
      (Stamp.quarterHourStampAt 0).OnSteadyClock 20700 ∧
      Stamp.round (.clock .hour) .up (Stamp.quarterHourStampAt 0) =
        .ok (Stamp.quarterHourStampAt 899999999999) ∧
      Stamp.round (.calendar .year) .up (Stamp.quarterHourStampAt 0) =
        .ok (Stamp.quarterHourStampAt 31515299999999999) ∧
      Stamp.round (.calendar .year) .up (Stamp.quarterHourStampAt 899999999999) =
        .ok (Stamp.quarterHourStampAt 31515299999999999) ∧
      Stamp.round (.clock .hour) .up (Stamp.quarterHourStampAt 31515299999999999) =
        .ok (Stamp.quarterHourStampAt 31515299999999999) := by
  have nested : (TimeUnit.clock .hour).Nested (.calendar .year) :=
    .trans .hours (.trans .daysOfMonth .months)
  have steady : (Stamp.quarterHourStampAt 0).OnSteadyClock 20700 :=
    Zone.steady_fixed ⟨20700, by decide, by decide⟩
  obtain ⟨moments, stamps⟩ := coarser_rounding_absorbs_finer nested ⟨0, true⟩ ⟨.given .utc⟩
  obtain ⟨afterHour, afterYear⟩ := moments Moment.steady_fourteenAhead
    (rfl : (afterMidnightOf ⟨2024, 2, 29⟩ 1).zone = _) .up (afterMidnightOf ⟨2024, 2, 29⟩ 3599999999)
    (afterMidnightOf ⟨2025, 1, 1⟩ (-1)) rfl rfl
  obtain ⟨afterHour', afterYear'⟩ := stamps steady .up (Stamp.quarterHourStampAt 899999999999)
    (Stamp.quarterHourStampAt 31515299999999999) rfl rfl
  exact ⟨nested, Moment.steady_fourteenAhead, rfl, rfl, rfl, congrArg Except.ok (afterHour _ rfl),
    congrArg Except.ok (afterYear _ rfl), steady, rfl, rfl, congrArg Except.ok (afterHour' _ rfl),
    congrArg Except.ok (afterYear' _ rfl)⟩

end RelativeTime
