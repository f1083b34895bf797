import RelativeTime.Proofs.Stamp.WallReading
import RelativeTime.Proofs.Unit.PeriodStarts

/-!
# Rounding stamps on a steady clock

On a clock whose offset never changes, and on the bare wall of a stamp without a zone, every wall time
is shown once. So rounding a stamp looks at nothing but its wall time and its width
(`Stamp.OnSteadyClock.onWallClock_eq`), and of the wall time at nothing but the period around it
(`Stamp.OnSteadyClock.round_congr`). The bounds that come out are exact to the nanosecond, whichever of
its widths a stamp has. Only what is in reach depends on the width: the end of a period is a fine stamp,
and a coarse one may have its start where no fine stamp reaches.
-/

namespace RelativeTime

namespace Stamp

/-- What shows the stamp is always `offset` seconds ahead of universal time. The wall time of a stamp
without a zone is taken for universal time. -/
def OnSteadyClock (offset : Int) (v : Stamp) : Prop :=
  match v.zone with
  | some zone => zone.Steady offset
  | none => offset = 0

/-- The bound on the wall as a stamp, which is fine if it is the end of a period. -/
def steadyBound (offset : Int) (unit : TimeUnit) (direction : Direction) (v : Stamp) : Stamp where
  count := unit.roundAt 1000 direction v.wall - offset * perSecond
  isFine := v.isFine || direction = .up
  zone := v.zone

variable {offset t : Int} {isFine : Bool} {unit : TimeUnit} {direction : Direction}
  {v w : Stamp}

theorem ofCount?_none (inRange : InRange isFine t) : ofCount? isFine none t = .ok ⟨t, isFine, none⟩ := by
  have sameWall : wall ⟨t, isFine, none⟩ = t := Int.add_zero t
  refine bind_eq_ok_iff.mpr ⟨t, check_eq_ok_iff.mpr ⟨inRange, rfl⟩, ?_⟩
  refine bind_eq_ok_iff.mpr ⟨t, check_eq_ok_iff.mpr ⟨?_, sameWall.symm⟩, rfl⟩
  rwa [sameWall]

theorem steadyBound_congr (sameZone : w.zone = v.zone)
    (width : w.isFine = v.isFine ∨ direction = .up)
    (samePeriod : unit.indexAt 1000 w.wall = unit.indexAt 1000 v.wall) :
    steadyBound offset unit direction w = steadyBound offset unit direction v := by
  simp only [steadyBound, mk.injEq]
  refine ⟨?_, ?_, sameZone⟩
  · rw [unit.roundAt_congr direction samePeriod]
  · rcases width with sameWidth | rfl
    · rw [sameWidth]
    · simp

namespace OnSteadyClock

theorem of_zone_eq (steady : OnSteadyClock offset v) (sameZone : w.zone = v.zone) :
    OnSteadyClock offset w := by
  simp only [OnSteadyClock] at steady ⊢
  rwa [sameZone]

section

variable (steady : OnSteadyClock offset v)
include steady

theorem wall_eq : v.wall = v.count + offset * perSecond := by
  obtain ⟨count, isFine, zone⟩ := v
  cases zone with
  | some zone => rw [Stamp.wall_eq rfl, steady]
  | none =>
    obtain rfl : offset = 0 := steady
    rfl

/-- The wall time that is found is shown once, so the mark for daylight saving time is of no use. -/
theorem onWallClock_eq (f : Int → Except TimeError Int) : v.onWallClock f = (do
    let wall ← f v.wall
    let wall ← check v.isFine wall
    ofCount? v.isFine v.zone (wall - offset * perSecond)) := by
  obtain ⟨count, isFine, zone⟩ := v
  cases zone with
  | some zone =>
    have reading : ∀ s, zone.reading s = .once offset := Zone.Steady.reading_eq steady
    simp only [onWallClock, instantOf_of_reading_once (reading _)]
  | none =>
    obtain rfl : offset = 0 := steady
    simp only [onWallClock]
    cases f (wall ⟨count, isFine, none⟩) with
    | error error => rfl
    | ok found =>
      -- the wall time is the count, which has been checked already
      cases checked : check isFine found with
      | error error => simp [bind, Except.bind, checked]
      | ok reached =>
        obtain ⟨inRange, rfl⟩ := check_eq_ok_iff.mp checked
        simp [bind, Except.bind, checked, ofCount?_none inRange, pure, Except.pure]

theorem eq_of_onWallClock {f : Int → Except TimeError Int} (result : v.onWallClock f = .ok w) :
    ∃ wall, f v.wall = .ok wall ∧ w = ⟨wall - offset * perSecond, v.isFine, v.zone⟩ := by
  rw [steady.onWallClock_eq] at result
  obtain ⟨_, found, checked⟩ := bind_eq_ok_iff.mp result
  obtain ⟨wall, inRange, shown⟩ := bind_eq_ok_iff.mp checked
  obtain ⟨-, rfl⟩ := check_eq_ok_iff.mp inRange
  exact ⟨_, found, eq_of_ofCount? shown⟩

/-! ## What rounding returns -/

theorem ofBound (unit : TimeUnit) (direction : Direction) :
    OnSteadyClock offset (steadyBound offset unit direction v) :=
  steady.of_zone_eq rfl

theorem wall_steadyBound :
    (steadyBound offset unit direction v).wall = unit.roundAt 1000 direction v.wall := by
  rw [(steady.ofBound unit direction).wall_eq]
  simp only [steadyBound, Int.sub_add_cancel]

/-- Two bounds in a row are one if they are on the wall. -/
theorem steadyBound_steadyBound {unit' unit'' : TimeUnit}
    (same : unit'.roundAt 1000 direction (unit.roundAt 1000 direction v.wall) =
      unit''.roundAt 1000 direction v.wall) :
    steadyBound offset unit' direction (steadyBound offset unit direction v) =
      steadyBound offset unit'' direction v := by
  rw [steadyBound, steady.wall_steadyBound, same]
  simp only [steadyBound, Bool.or_assoc, Bool.or_self]

theorem eq_of_clockFloor {unit : ClockUnit} (floored : clockFloor unit v = .ok w) :
    w = steadyBound offset (.clock unit) .down v := by
  obtain ⟨_, found, rfl⟩ := steady.eq_of_onWallClock floored
  obtain rfl := Except.ok.inj found
  simp only [← Int.ediv_mul_self, steadyBound, reduceCtorEq, decide_false, Bool.or_false]
  rfl

theorem eq_of_round (rounded : round unit direction v = .ok w) :
    w = steadyBound offset unit direction v := by
  cases unit with
  | clock unit =>
    cases direction with
    | down => exact steady.eq_of_clockFloor rounded
    | up =>
      obtain ⟨start, floored, elapsed⟩ :=
        bind_eq_ok_iff.mp (show clockCeil unit v = .ok w from rounded)
      obtain ⟨next, reached, before⟩ := bind_eq_ok_iff.mp elapsed
      obtain rfl := eq_of_elapse reached
      obtain rfl := steady.eq_of_clockFloor floored
      rw [eq_of_justBefore before]
      simp only [steadyBound, TimeUnit.roundAt, TimeUnit.startAt, nanos, Int.add_mul, Int.one_mul,
        decide_true, Bool.or_true, mk.injEq, and_true]
      omega
  | calendar unit =>
    cases direction with
    | down =>
      obtain ⟨_, found, rfl⟩ :=
        steady.eq_of_onWallClock (show calendarFloor unit v = .ok w from rounded)
      obtain ⟨-, rfl⟩ := check_eq_ok_iff.mp found
      simp only [steadyBound, reduceCtorEq, decide_false, Bool.or_false]
      rfl
    | up =>
      obtain ⟨next, found, before⟩ :=
        bind_eq_ok_iff.mp (show calendarCeil unit v = .ok w from rounded)
      obtain ⟨_, moved, rfl⟩ := steady.eq_of_onWallClock found
      obtain ⟨start, floored, following⟩ := bind_eq_ok_iff.mp moved
      obtain ⟨-, rfl⟩ := check_eq_ok_iff.mp floored
      obtain ⟨d, followed, returned⟩ := bind_eq_ok_iff.mp following
      obtain rfl := CalendarUnit.eq_of_next?_eq_ok followed
      obtain rfl := Except.ok.inj returned
      rw [eq_of_justBefore before, next_floor]
      simp only [steadyBound, decide_true, Bool.or_true, mk.injEq, and_true]
      change unit.next (v.wall / perDay) * perDay - offset * perSecond - 1 =
        unit.next (v.wall / perDay) * perDay - 1 - offset * perSecond
      omega

/-- Rounding depends on the period around a stamp and on nothing else that is on the wall, results that
are out of reach included. -/
theorem round_congr (sameZone : w.zone = v.zone) (sameWidth : w.isFine = v.isFine)
    (samePeriod : unit.indexAt 1000 w.wall = unit.indexAt 1000 v.wall) :
    round unit direction w = round unit direction v := by
  have steady' := steady.of_zone_eq sameZone
  cases unit with
  | clock unit =>
    have floor : clockFloor unit w = clockFloor unit v := by
      have index : w.wall / nanos unit = v.wall / nanos unit := samePeriod
      rw [clockFloor, clockFloor, steady.onWallClock_eq, steady'.onWallClock_eq, ← Int.ediv_mul_self,
        ← Int.ediv_mul_self, index, sameZone, sameWidth]
    cases direction with
    | down => exact floor
    | up =>
      change clockCeil unit w = clockCeil unit v
      rw [clockCeil, floor, clockCeil]
  | calendar unit =>
    have start : wallFloor unit w.isFine w.wall = wallFloor unit v.isFine v.wall := by
      have floor : unit.floor (w.wall / perDay) = unit.floor (v.wall / perDay) :=
        congrArg unit.start samePeriod
      rw [wallFloor, wallFloor, floor, sameWidth]
    cases direction with
    | down =>
      change calendarFloor unit w = calendarFloor unit v
      rw [calendarFloor, calendarFloor, steady.onWallClock_eq, steady'.onWallClock_eq, start, sameZone,
        sameWidth]
    | up =>
      change calendarCeil unit w = calendarCeil unit v
      rw [calendarCeil, calendarCeil, steady.onWallClock_eq, steady'.onWallClock_eq, start, sameZone,
        sameWidth]

/-! ## Bounds and the stamps between them -/

theorem count_le_count_iff (steady' : OnSteadyClock offset w) :
    v.count ≤ w.count ↔ v.wall ≤ w.wall := by
  rw [steady.wall_eq, steady'.wall_eq]
  exact (Int.add_le_add_iff_right _).symm

/-- Both bounds are in the period. -/
theorem indexAt_steadyBound (unit : TimeUnit) (direction : Direction) :
    unit.indexAt 1000 (steadyBound offset unit direction v).wall = unit.indexAt 1000 v.wall := by
  rw [steady.wall_steadyBound, unit.indexAt_roundAt (by decide)]

theorem steadyBound_down_le : (steadyBound offset unit .down v).count ≤ v.count := by
  rw [(steady.ofBound unit .down).count_le_count_iff steady, steady.wall_steadyBound]
  exact unit.roundAt_down_le (by decide) v.wall

theorem le_steadyBound_up : v.count ≤ (steadyBound offset unit .up v).count := by
  rw [steady.count_le_count_iff (steady.ofBound unit .up), steady.wall_steadyBound]
  exact unit.le_roundAt_up (by decide) v.wall

/-- The stamps between the bounds are in the period. -/
theorem indexAt_of_between (sameZone : w.zone = v.zone)
    (lower : (steadyBound offset unit .down v).count ≤ w.count)
    (upper : w.count ≤ (steadyBound offset unit .up v).count) :
    unit.indexAt 1000 w.wall = unit.indexAt 1000 v.wall := by
  have steady' := steady.of_zone_eq sameZone
  rw [(steady.ofBound unit .down).count_le_count_iff steady', steady.wall_steadyBound] at lower
  rw [steady'.count_le_count_iff (steady.ofBound unit .up), steady.wall_steadyBound] at upper
  exact (unit.indexAt_eq_iff (by decide)).mpr ⟨lower, Int.lt_of_le_sub_one upper⟩

theorem steadyBound_le_steadyBound (sameZone : w.zone = v.zone) (ordered : v.count ≤ w.count) :
    (steadyBound offset unit direction v).count ≤ (steadyBound offset unit direction w).count := by
  have walls := (steady.count_le_count_iff (steady.of_zone_eq sameZone)).mp ordered
  apply Int.sub_le_sub_right
  exact unit.roundAt_le_roundAt (by decide) direction walls

end

end OnSteadyClock

/-- On a steady clock rounding is exact to the nanosecond. Rounding down comes to the greatest start of a
period that is not after the stamp, and rounding up to the last nanosecond before the least one that is.
The stamps between the two bounds have the same bounds, so rounding once more changes nothing, and a later
stamp has no earlier bounds. -/
theorem round_to_exact_periods {offset : Int} {v : Stamp} (steady : OnSteadyClock offset v)
    (unit : TimeUnit) :
    (∀ start, round unit .down v = .ok start →
      start.zone = v.zone ∧ IsGreatest {t | unit.StartsAt 1000 t ∧ t ≤ v.wall} start.wall ∧
        start.count ≤ v.count ∧ round unit .down start = .ok start) ∧
    (∀ stop, round unit .up v = .ok stop →
      stop.zone = v.zone ∧ IsLeast {t | unit.StartsAt 1000 t ∧ v.wall < t} (stop.wall + 1) ∧
        v.count ≤ stop.count ∧ ∀ again, round unit .up stop = .ok again → again = stop) ∧
    (∀ start stop, round unit .down v = .ok start → round unit .up v = .ok stop →
      ∀ w, w.zone = v.zone → start.count ≤ w.count → w.count ≤ stop.count →
        (w.isFine = v.isFine → round unit .down w = .ok start ∧ round unit .up w = .ok stop) ∧
          (∀ start', round unit .down w = .ok start' → start'.count = start.count) ∧
          ∀ stop', round unit .up w = .ok stop' → stop' = stop) ∧
    (∀ direction w bound bound', w.zone = v.zone → v.count ≤ w.count →
      round unit direction v = .ok bound → round unit direction w = .ok bound' →
        bound.count ≤ bound'.count) := by
  have around := unit.periodAround_roundAt (by decide : 0 < (1000 : Int)) v.wall
  refine ⟨fun start down => ?_, fun stop up => ?_, fun start stop down up w sameZone lower upper => ?_,
    fun direction w bound bound' sameZone ordered rounded rounded' => ?_⟩
  · have again : round unit .down (steadyBound offset unit .down v) = round unit .down v :=
      steady.round_congr rfl (by simp [steadyBound]) (steady.indexAt_steadyBound unit .down)
    obtain rfl := steady.eq_of_round down
    refine ⟨rfl, ?_, steady.steadyBound_down_le, again.trans down⟩
    rw [steady.wall_steadyBound]
    exact around.start
  · obtain rfl := steady.eq_of_round up
    refine ⟨rfl, ?_, steady.le_steadyBound_up, fun again rounded => ?_⟩
    · rw [steady.wall_steadyBound]
      exact around.next
    · -- the end is fine even where the stamp is not, so this one rounding may fail
      rw [(steady.ofBound unit .up).eq_of_round rounded]
      exact steadyBound_congr rfl (.inr rfl) (steady.indexAt_steadyBound unit .up)
  · obtain rfl := steady.eq_of_round down
    obtain rfl := steady.eq_of_round up
    have steady' := steady.of_zone_eq sameZone
    have samePeriod := steady.indexAt_of_between sameZone lower upper
    refine ⟨fun sameWidth => ?_, fun start' down' => ?_, fun stop' up' => ?_⟩
    · exact ⟨(steady.round_congr sameZone sameWidth samePeriod).trans down,
        (steady.round_congr sameZone sameWidth samePeriod).trans up⟩
    · rw [steady'.eq_of_round down']
      simp only [steadyBound, unit.roundAt_congr .down samePeriod]
    · rw [steady'.eq_of_round up']
      exact steadyBound_congr sameZone (.inr rfl) samePeriod
  · rw [steady.eq_of_round rounded, (steady.of_zone_eq sameZone).eq_of_round rounded']
    exact steady.steadyBound_le_steadyBound sameZone ordered

/-- Clocks that are always five hours and three quarters ahead of universal time. -/
def quarterHourClocks : Zone :=
  .fixed ⟨20700, by decide, by decide⟩

/-- A fine stamp on the clocks of `quarterHourClocks` at a nanosecond since 1970, which can be negative. -/
def quarterHourStampAt (nanos : Int) : Stamp :=
  ⟨epoch + nanos, true, some quarterHourClocks⟩

/-- The week around 20:17:40.123456789 on July 20th, 1969, a Sunday, is from Monday the 14th to the last
nanosecond of that day, which is its own end. -/
theorem round_week_before_1970 :
    OnSteadyClock 20700 (quarterHourStampAt (-14203639876543211)) ∧
      round (.calendar .week) .down (quarterHourStampAt (-14203639876543211)) =
        .ok (quarterHourStampAt (-14795100000000000)) ∧
      IsGreatest {t | TimeUnit.StartsAt 1000 (.calendar .week) t ∧
          t ≤ (quarterHourStampAt (-14203639876543211)).wall}
        (quarterHourStampAt (-14795100000000000)).wall ∧
      round (.calendar .week) .up (quarterHourStampAt (-14203639876543211)) =
        .ok (quarterHourStampAt (-14190300000000001)) ∧
      IsLeast {t | TimeUnit.StartsAt 1000 (.calendar .week) t ∧
          (quarterHourStampAt (-14203639876543211)).wall < t}
        (quarterHourStampAt (-14190300000000000)).wall ∧
      round (.calendar .week) .down (quarterHourStampAt (-14190300000000001)) =
        .ok (quarterHourStampAt (-14795100000000000)) ∧
      round (.calendar .week) .up (quarterHourStampAt (-14190300000000001)) =
        .ok (quarterHourStampAt (-14190300000000001)) := by
  have steady : OnSteadyClock 20700 (quarterHourStampAt (-14203639876543211)) :=
    Zone.steady_fixed ⟨20700, by decide, by decide⟩
  have down : round (.calendar .week) .down (quarterHourStampAt (-14203639876543211)) =
      .ok (quarterHourStampAt (-14795100000000000)) := rfl
  have up : round (.calendar .week) .up (quarterHourStampAt (-14203639876543211)) =
      .ok (quarterHourStampAt (-14190300000000001)) := rfl
  obtain ⟨downwards, upwards, between, -⟩ := round_to_exact_periods steady (.calendar .week)
  obtain ⟨-, start, -, -⟩ := downwards _ down
  obtain ⟨-, next, -, -⟩ := upwards _ up
  obtain ⟨same, -, -⟩ := between _ _ down up (quarterHourStampAt (-14190300000000001)) rfl (by decide)
    (by decide)
  exact ⟨steady, down, start, up, next, same rfl⟩

end Stamp

end RelativeTime
