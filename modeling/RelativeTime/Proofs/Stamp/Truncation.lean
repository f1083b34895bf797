import RelativeTime.Proofs.Moment.CalendarAddition
import RelativeTime.Proofs.Stamp.WallReading

/-!
# Stamps to the whole microsecond

A stamp without its last three digits is the moment of the same zone at that microsecond
(`Stamp.TruncatesTo`). Every operation keeps the two together that does not depend on how a wall time is
read. Elapsed time is added to both. What is found on the wall clock is the same wall time but for the
digits, and a wall time that is shown once has one reading, for stamps and for moments. Only rounding up
brings digits that a moment has not, since it ends the one's nanosecond and the other's microsecond before
the next period.
-/

namespace RelativeTime

/-- The wall time that is read back in the zone to answer a call. Reading the clock and adding elapsed
time need none. -/
def Call.wallTime? {ζ : Type} : Call TimeUnit Moment ζ → Option Int
  | .add (.calendar unit) amount v _ => some (v.onDay (unit.shift amount v.day))
  | .round (.clock unit) _ v _ => some (v.wall - v.wall % unit.micros)
  | .round (.calendar unit) .down v _ => some (unit.floor v.day * Moment.perDay)
  | .round (.calendar unit) .up v _ => some (unit.next v.day * Moment.perDay)
  | .readClock _ | .add (.clock _) _ _ _ => none

namespace Stamp

/-- The moment is the stamp to the whole microsecond, in the zone. If `Exact` is so, there is no more to
the stamp. -/
structure TruncatesTo (zone : Zone) (Exact : Prop) (s : Stamp) (v : Moment) : Prop where
  zone_eq : s.zone = some zone
  moment_eq : v = Moment.ofInstant zone (s.count / 1000)
  whole : Exact → 1000 ∣ s.count

theorem second_eq (count : Int) : count / 1000 / Moment.perSecond = count / perSecond := by
  simp only [Moment.perSecond, perSecond]
  omega

namespace TruncatesTo

variable {ζ : Type} {zone : Zone} {Exact : Prop} {s s' : Stamp} {v v' : Moment} {context : Context ζ}

theorem inZone (truncates : TruncatesTo zone Exact s v) : v.zone = some zone := by
  rw [truncates.moment_eq]
  rfl

/-- The moment is the local form of an instant, so universal time has no mark to keep on it. -/
theorem unkept (truncates : TruncatesTo zone Exact s v) (marked : v.secondPass = true) :
    zone.isUniversal = false := by
  rw [truncates.moment_eq] at marked
  exact Moment.isUniversal_of_secondPass marked

theorem mono {Exact' : Prop} (truncates : TruncatesTo zone Exact s v) (implies : Exact' → Exact) :
    TruncatesTo zone Exact' s v :=
  ⟨truncates.zone_eq, truncates.moment_eq, fun isExact => truncates.whole (implies isExact)⟩

/-! ## The wall clock -/

theorem wall_eq (truncates : TruncatesTo zone Exact s v) : v.wall = s.wall / 1000 := by
  rw [truncates.moment_eq, Stamp.wall_eq truncates.zone_eq, Moment.ofInstant, second_eq]
  simp only [Moment.perSecond, perSecond]
  omega

theorem dvd_wall (truncates : TruncatesTo zone Exact s v) (isExact : Exact) : 1000 ∣ s.wall := by
  have whole := truncates.whole isExact
  rw [Stamp.wall_eq truncates.zone_eq]
  simp only [perSecond]
  omega

theorem day_eq (truncates : TruncatesTo zone Exact s v) : v.day = s.wall / perDay := by
  rw [Moment.day, truncates.wall_eq]
  simp only [Moment.perDay, Moment.perSecond, perDay, perSecond]
  omega

theorem offset?_eq (truncates : TruncatesTo zone Exact s v) (readsBack : zone.ReadsBack) :
    v.offset? = some s.period.offset.seconds := by
  rw [truncates.moment_eq, Moment.offset?_of_readsBack readsBack, second_eq,
    offset_eq truncates.zone_eq]

/-- A wall time that is shown once is read alike, whatever the marks say. -/
theorem of_shownOnce {wall wall' : Int} {isFine isFirst secondPass : Bool}
    (readsBack : zone.ReadsBack) (once : zone.ShownOnce (wall / Moment.perSecond))
    (same : wall' / 1000 = wall) (whole : Exact → 1000 ∣ wall') :
    TruncatesTo zone Exact ⟨instantOf zone wall' isFirst, isFine, some zone⟩
      (.ofInstant zone (Moment.instant ⟨wall, secondPass, some zone⟩)) := by
  subst same
  obtain ⟨offset, reading⟩ := readsBack.exists_reading once
  have instant : (⟨wall' / 1000, secondPass, some zone⟩ : Moment).instant =
      wall' / 1000 - offset * Moment.perSecond := by
    rw [Moment.instant, Moment.offset?, Option.map_some, Zone.wallOffset, reading]
    rfl
  rw [second_eq] at reading
  rw [instant, instantOf_of_reading_once reading]
  refine ⟨rfl, ?_, fun isExact => ?_⟩
  · congr 1
    simp only [Moment.perSecond, perSecond]
    omega
  · have whole := whole isExact
    simp only [perSecond]
    omega

/-! ## Elapsed time -/

theorem elapse {delta : Int} (truncates : TruncatesTo zone Exact s v) (readsBack : zone.ReadsBack)
    (elapsed : v.elapse delta = .ok v') (isFine : Bool) :
    TruncatesTo zone Exact ⟨s.count + 1000 * delta, isFine, some zone⟩ v' := by
  rw [truncates.moment_eq] at elapsed
  obtain rfl := Moment.eq_of_ofInstant? (Moment.elapse_of_readsBack readsBack elapsed)
  refine ⟨rfl, ?_, fun isExact => ?_⟩
  · congr 1
    simp only
    omega
  · have whole := truncates.whole isExact
    simp only
    omega

theorem justBefore {isFine : Bool} (truncates : TruncatesTo zone True s v)
    (readsBack : zone.ReadsBack) (before : v.justBefore = .ok v') :
    TruncatesTo zone False ⟨s.count - 1, isFine, some zone⟩ v' := by
  -- a nanosecond less than a whole microsecond is truncated to the microsecond before
  have whole := truncates.whole trivial
  rw [truncates.moment_eq] at before
  obtain rfl := Moment.eq_of_ofInstant? (Moment.elapse_of_readsBack readsBack before)
  refine ⟨rfl, ?_, False.elim⟩
  congr 1
  simp only
  omega

/-! ## Operations -/

theorem add {unit : TimeUnit} {amount : Int} (truncates : TruncatesTo zone Exact s v)
    (readsBack : zone.ReadsBack)
    (once : ∀ wall ∈ (Call.add unit amount v context).wallTime?,
      zone.ShownOnce (wall / Moment.perSecond))
    (added : Moment.add unit v amount = .ok v') (added' : Stamp.add unit s amount = .ok s') :
    TruncatesTo zone Exact s' v' := by
  cases unit with
  | clock unit =>
    obtain ⟨_, -, elapsed⟩ :=
      bind_eq_ok_iff.mp (show Moment.clockAdd unit v amount = .ok v' from added)
    have span : amount * nanos unit = 1000 * (amount * unit.micros) := Int.mul_left_comm _ _ _
    rw [eq_of_clockAdd added', truncates.zone_eq, span]
    exact truncates.elapse readsBack elapsed s.isFine
  | calendar unit =>
    obtain ⟨d, shifted, read⟩ :=
      bind_eq_ok_iff.mp (show Moment.calendarAdd unit v amount = .ok v' from added)
    obtain rfl := CalendarUnit.eq_of_shift?_eq_ok shifted
    rw [truncates.inZone] at read
    obtain rfl := Moment.eq_of_normalize rfl read nofun
    rw [eq_of_calendarAdd truncates.zone_eq added', ← truncates.day_eq]
    -- the date is that of the moment, and the time of day keeps the digits
    refine of_shownOnce readsBack (once _ rfl) ?_ fun isExact => ?_
    · change _ = unit.shift amount v.day * Moment.perDay + v.wall % Moment.perDay
      rw [truncates.wall_eq]
      simp only [Moment.perDay, Moment.perSecond, perDay, perSecond]
      omega
    · have whole := truncates.dvd_wall isExact
      simp only [perDay, perSecond]
      omega

section

variable (truncates : TruncatesTo zone Exact s v) (readsBack : zone.ReadsBack)
include truncates readsBack

theorem clockFloor {unit : ClockUnit}
    (once : zone.ShownOnce ((v.wall - v.wall % unit.micros) / Moment.perSecond))
    (floored : Moment.clockFloor unit v = .ok v') (floored' : Stamp.clockFloor unit s = .ok s') :
    TruncatesTo zone True s' v' := by
  rw [Moment.clockFloor, truncates.inZone] at floored
  obtain rfl := Moment.eq_of_normalize rfl floored truncates.unkept
  rw [eq_of_clockFloor truncates.zone_eq floored']
  -- a unit has whole microseconds, so nothing is left of the digits on the wall
  refine of_shownOnce readsBack once ?_ fun _ => ?_
  · rw [truncates.wall_eq]
    cases unit <;> simp only [nanos, ClockUnit.micros] <;> omega
  · cases unit <;> simp only [nanos, ClockUnit.micros] <;> omega

theorem startOfDay {d : Int} (once : zone.ShownOnce (d * Moment.perDay / Moment.perSecond))
    (started : Moment.startOfDay v.zone d = .ok v') (isFine isFirst : Bool) :
    TruncatesTo zone True ⟨instantOf zone (d * perDay) isFirst, isFine, some zone⟩ v' := by
  rw [truncates.inZone] at started
  obtain rfl := Moment.eq_of_normalize rfl started nofun
  refine of_shownOnce readsBack once ?_ fun _ => ?_
  · simp only [Moment.perDay, Moment.perSecond, perDay, perSecond]
    omega
  · simp only [perDay, perSecond]
    omega

theorem round {unit : TimeUnit} {direction : Direction}
    (once : ∀ wall ∈ (Call.round unit direction v context).wallTime?,
      zone.ShownOnce (wall / Moment.perSecond))
    (isDown : Exact → direction = .down)
    (rounded : Moment.round unit direction v = .ok v')
    (rounded' : Stamp.round unit direction s = .ok s') : TruncatesTo zone Exact s' v' := by
  cases direction with
  | down =>
    cases unit with
    | clock unit =>
      exact (truncates.clockFloor readsBack (once _ rfl) rounded rounded').mono fun _ => trivial
    | calendar unit =>
      rw [eq_of_calendarFloor truncates.zone_eq rounded', ← truncates.day_eq]
      exact (truncates.startOfDay readsBack (once _ rfl) rounded _ _).mono fun _ => trivial
  | up =>
    -- the bound itself is whole, and what comes just before it is not
    have notExact : Exact → False := fun isExact => absurd (isDown isExact) nofun
    cases unit with
    | clock unit =>
      obtain ⟨first, floored, elapsed⟩ :=
        bind_eq_ok_iff.mp (show Moment.clockCeil unit v = .ok v' from rounded)
      obtain ⟨next, reached, before⟩ := bind_eq_ok_iff.mp elapsed
      obtain ⟨start, floored', rfl⟩ := eq_of_clockCeil truncates.zone_eq rounded'
      have started := truncates.clockFloor readsBack (once _ rfl) floored floored'
      exact ((started.elapse readsBack reached true).justBefore readsBack before).mono notExact
    | calendar unit =>
      obtain ⟨d, following, ended⟩ :=
        bind_eq_ok_iff.mp (show Moment.calendarCeil unit v = .ok v' from rounded)
      obtain rfl := CalendarUnit.eq_of_next?_eq_ok following
      obtain ⟨next, reached, before⟩ := bind_eq_ok_iff.mp ended
      rw [eq_of_calendarCeil truncates.zone_eq rounded', ← truncates.day_eq]
      have begun := truncates.startOfDay readsBack (once _ rfl) reached s.isFine s.period.isDst
      exact (begun.justBefore readsBack before).mono notExact

end

end TruncatesTo

end Stamp

end RelativeTime
