import RelativeTime.Moment.Arithmetic
import RelativeTime.Proofs.Zone.LocalTime

/-!
# Moments that are the local form of an instant

In a zone whose changes are spaced the local form of an instant stands for that instant
(`Moment.instant_ofInstant`), second showings included. So what is computed from such a moment by way
of universal time is computed from its instant, and all that is left to say of an operation is at
which instant it arrives.
-/

namespace RelativeTime

namespace Moment

variable {zone : Zone} {v : Moment} {u : Int}

/-! ## Results within the supported years -/

theorem check_eq_ok_iff {t t' : Int} : check t = .ok t' ↔ InRange t ∧ t' = t := by
  unfold check
  split
  case isTrue inRange => simp only [Except.ok.injEq, inRange, true_and, eq_comm]
  case isFalse outside => simp only [outside, reduceCtorEq, false_and]

theorem ofInstant?_eq_ok_iff : ofInstant? zone u = .ok v ↔
    InRange u ∧ InRange (ofInstant zone u).wall ∧ v = ofInstant zone u := by
  constructor
  · intro result
    obtain ⟨_, universal, shown⟩ := bind_eq_ok_iff.mp result
    obtain ⟨inRange, rfl⟩ := check_eq_ok_iff.mp universal
    obtain ⟨_, wall, returned⟩ := bind_eq_ok_iff.mp shown
    exact ⟨inRange, (check_eq_ok_iff.mp wall).1, (Except.ok.inj returned).symm⟩
  · rintro ⟨inRange, wallInRange, rfl⟩
    refine bind_eq_ok_iff.mpr ⟨u, check_eq_ok_iff.mpr ⟨inRange, rfl⟩, ?_⟩
    exact bind_eq_ok_iff.mpr ⟨_, check_eq_ok_iff.mpr ⟨wallInRange, rfl⟩, rfl⟩

theorem eq_of_ofInstant? (result : ofInstant? zone u = .ok v) : v = ofInstant zone u :=
  (ofInstant?_eq_ok_iff.mp result).2.2

/-! ## Local form and back -/

/-- The wall clock shows whole seconds when universal time does. -/
theorem wall_ofInstant_div (zone : Zone) (u : Int) : (ofInstant zone u).wall / perSecond =
    u / perSecond + zone.offsetAt (u / perSecond) := by
  simp only [ofInstant, perSecond]
  omega

theorem offset?_of_readsBack (readsBack : zone.ReadsBack) (u : Int) :
    (ofInstant zone u).offset? = some (zone.offsetAt (u / perSecond)) := by
  change some (zone.wallOffset ((ofInstant zone u).wall / perSecond) _) = _
  rw [wall_ofInstant_div]
  exact congrArg some (readsBack _)

theorem instant_of_readsBack (readsBack : zone.ReadsBack) (u : Int) :
    (ofInstant zone u).instant = u := by
  rw [instant, offset?_of_readsBack readsBack]
  simp only [ofInstant, Option.getD_some]
  omega

theorem offset?_ofInstant (spaced : zone.Spaced) (u : Int) :
    (ofInstant zone u).offset? = some (zone.offsetAt (u / perSecond)) :=
  offset?_of_readsBack spaced.readsBack u

/-- The local form of an instant stands for that instant. -/
theorem instant_ofInstant (spaced : zone.Spaced) (u : Int) : (ofInstant zone u).instant = u :=
  instant_of_readsBack spaced.readsBack u

/-- Time elapses from the instant that a moment stands for, whether or not the moment is a local form. -/
theorem elapse_eq_ok_iff {delta : Int} {w : Moment} (inZone : v.zone = some zone) :
    v.elapse delta = .ok w ↔ InRange v.instant ∧ ofInstant? zone (v.instant + delta) = .ok w := by
  rw [elapse, inZone]
  constructor
  · intro result
    obtain ⟨_, checked, shown⟩ := bind_eq_ok_iff.mp result
    obtain ⟨inRange, rfl⟩ := check_eq_ok_iff.mp checked
    exact ⟨inRange, shown⟩
  · rintro ⟨inRange, shown⟩
    exact bind_eq_ok_iff.mpr ⟨_, check_eq_ok_iff.mpr ⟨inRange, rfl⟩, shown⟩

/-- To elapse from the local form of an instant is to elapse from the instant. -/
theorem elapse_of_readsBack (readsBack : zone.ReadsBack) {delta : Int}
    (result : (ofInstant zone u).elapse delta = .ok v) :
    ofInstant? zone (u + delta) = .ok v := by
  obtain ⟨-, shown⟩ := (elapse_eq_ok_iff rfl).mp result
  rwa [instant_of_readsBack readsBack] at shown

/-- The wall clock keeps the order of instants among first showings and among second showings. -/
theorem wall_le_wall_iff (spaced : zone.Spaced) {u' : Int}
    (samePass : (ofInstant zone u).secondPass = (ofInstant zone u').secondPass) :
    (ofInstant zone u).wall ≤ (ofInstant zone u').wall ↔ u ≤ u' := by
  have ascends : ∀ {w w' : Int},
      (ofInstant zone w).secondPass = (ofInstant zone w').secondPass → w < w' →
      (ofInstant zone w).wall < (ofInstant zone w').wall := by
    intro w w' same less
    have shown := wall_ofInstant_div zone w
    have shown' := wall_ofInstant_div zone w'
    rcases Int.lt_or_le (w / perSecond) (w' / perSecond) with earlier | sameSecond
    · have := spaced.local_lt_local earlier same
      simp only [perSecond] at *
      omega
    · have second : w / perSecond = w' / perSecond := by
        simp only [perSecond] at *
        omega
      simp only [ofInstant, second]
      omega
  constructor
  · intro ordered
    exact Int.not_lt.mp fun less => Int.not_lt.mpr ordered (ascends samePass.symm less)
  · intro ordered
    rcases Int.lt_or_eq_of_le ordered with less | rfl
    · exact Int.le_of_lt (ascends samePass less)
    · exact Int.le_refl _

/-! ## Universal time -/

section

variable (universal : zone.isUniversal = true)
include universal

theorem ofInstant_of_isUniversal (u : Int) : ofInstant zone u = ⟨u, false, some zone⟩ := by
  simp [ofInstant, Zone.offsetAt_of_isUniversal universal, Zone.isSecondPass_of_isUniversal universal]

theorem instant_of_isUniversal (inZone : v.zone = some zone) : v.instant = v.wall := by
  simp [instant, offset?, inZone, Zone.wallOffset_of_isUniversal universal]

theorem normalize_of_isUniversal (inZone : v.zone = some zone) :
    normalize v = (check v.wall).map fun _ => v := by
  rw [normalize, inZone]
  exact if_pos universal

end

/-! ## Local forms and normalising -/

/-- The moment is the local form of an instant in the zone. -/
def LocalIn (zone : Zone) (v : Moment) : Prop :=
  ∃ u, v = ofInstant zone u

theorem LocalIn.zone_eq (localIn : LocalIn zone v) : v.zone = some zone := by
  obtain ⟨u, rfl⟩ := localIn
  rfl

/-- Universal time shows nothing twice. -/
theorem isUniversal_of_secondPass (marked : (ofInstant zone u).secondPass = true) :
    zone.isUniversal = false := by
  rw [← Bool.not_eq_true]
  intro universal
  rw [ofInstant_of_isUniversal universal] at marked
  cases marked

/-- Without a mark there is nothing that universal time could keep. -/
theorem normalize_eq (inZone : v.zone = some zone)
    (unkept : v.secondPass = true → zone.isUniversal = false) :
    normalize v = ofInstant? zone v.instant := by
  cases universal : zone.isUniversal with
  | false =>
    rw [normalize, inZone]
    exact if_neg (by simp [universal])
  | true =>
    obtain ⟨wall, secondPass, zone?⟩ := v
    obtain rfl : zone? = some zone := inZone
    cases secondPass with
    | true => simp [universal] at unkept
    | false =>
      rw [normalize_of_isUniversal universal rfl, instant_of_isUniversal universal rfl]
      simp only [ofInstant?, ofInstant_of_isUniversal universal, check]
      by_cases inRange : InRange wall <;> simp [inRange, bind, Except.bind, Except.map, pure, Except.pure]

theorem eq_of_normalize {w : Moment} (inZone : v.zone = some zone) (normalized : normalize v = .ok w)
    (unkept : v.secondPass = true → zone.isUniversal = false) : w = ofInstant zone v.instant :=
  eq_of_ofInstant? ((normalize_eq inZone unkept).symm.trans normalized)

theorem normalize_ofInstant (zone : Zone) (u : Int) :
    (ofInstant zone u).normalize = ofInstant? zone (ofInstant zone u).instant :=
  normalize_eq rfl isUniversal_of_secondPass

/-- Whatever else is kept, the zone is. -/
theorem zone_of_normalize {wall : Int} {secondPass : Bool} {zone? : Option Zone}
    (inZone : zone? = some zone) (result : normalize ⟨wall, secondPass, zone?⟩ = .ok v) :
    v.zone = some zone := by
  subst inZone
  cases universal : zone.isUniversal with
  | false =>
    rw [eq_of_normalize rfl result fun _ => universal]
    rfl
  | true =>
    rw [normalize_of_isUniversal universal rfl] at result
    obtain ⟨_, -, rfl⟩ := exists_of_map_eq_ok result
    rfl

/-! ## Operations stay in the zone -/

theorem localIn_of_normalize {wall : Int} {zone? : Option Zone} (inZone : zone? = some zone)
    (result : normalize ⟨wall, false, zone?⟩ = .ok v) : LocalIn zone v :=
  ⟨_, eq_of_normalize inZone result nofun⟩

theorem localIn_of_elapse {w : Moment} {delta : Int} (inZone : v.zone = some zone)
    (result : v.elapse delta = .ok w) : LocalIn zone w := by
  obtain ⟨-, shown⟩ := (elapse_eq_ok_iff inZone).mp result
  exact ⟨_, eq_of_ofInstant? shown⟩

theorem localIn_of_add {w : Moment} {unit : TimeUnit} {amount : Int} (inZone : v.zone = some zone)
    (result : add unit v amount = .ok w) : LocalIn zone w := by
  cases unit with
  | clock unit =>
    obtain ⟨_, -, elapsed⟩ := bind_eq_ok_iff.mp (show clockAdd unit v amount = .ok w from result)
    exact localIn_of_elapse inZone elapsed
  | calendar unit =>
    obtain ⟨d, -, moved⟩ := bind_eq_ok_iff.mp (show calendarAdd unit v amount = .ok w from result)
    exact localIn_of_normalize inZone moved

theorem zone_of_round_down {w : Moment} {unit : TimeUnit} (inZone : v.zone = some zone)
    (result : round unit .down v = .ok w) : w.zone = some zone := by
  cases unit with
  | clock unit => exact zone_of_normalize inZone result
  | calendar unit => exact (localIn_of_normalize inZone result).zone_eq

/-- Rounding up keeps no mark, whatever the moment is. -/
theorem localIn_of_round_up {w : Moment} {unit : TimeUnit} (inZone : v.zone = some zone)
    (result : round unit .up v = .ok w) : LocalIn zone w := by
  cases unit with
  | clock unit =>
    obtain ⟨start, floored, elapsed⟩ :=
      bind_eq_ok_iff.mp (show clockCeil unit v = .ok w from result)
    obtain ⟨next, reached, before⟩ := bind_eq_ok_iff.mp elapsed
    have started : start.zone = some zone := zone_of_normalize inZone floored
    exact localIn_of_elapse (localIn_of_elapse started reached).zone_eq before
  | calendar unit =>
    obtain ⟨d, -, ended⟩ := bind_eq_ok_iff.mp (show calendarCeil unit v = .ok w from result)
    obtain ⟨next, started, before⟩ := bind_eq_ok_iff.mp ended
    exact localIn_of_elapse (localIn_of_normalize inZone started).zone_eq before

theorem localIn_of_round {w : Moment} {unit : TimeUnit} {direction : Direction}
    (localIn : LocalIn zone v) (result : round unit direction v = .ok w) : LocalIn zone w := by
  cases direction with
  | up => exact localIn_of_round_up localIn.zone_eq result
  | down =>
    cases unit with
    | calendar unit => exact localIn_of_normalize localIn.zone_eq result
    | clock unit =>
      obtain ⟨u, rfl⟩ := localIn
      have floored : clockFloor unit (ofInstant zone u) = .ok w := result
      rw [clockFloor] at floored
      exact ⟨_, eq_of_normalize rfl floored isUniversal_of_secondPass⟩

end Moment

end RelativeTime
