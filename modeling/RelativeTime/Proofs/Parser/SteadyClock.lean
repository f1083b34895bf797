import RelativeTime.Proofs.Moment.CalendarAddition
import RelativeTime.Proofs.Moment.ClockAddition
import RelativeTime.Proofs.Moment.Limits
import RelativeTime.Proofs.Parser.Range
import RelativeTime.Proofs.Stamp.WallReading
import RelativeTime.Proofs.Unit.WallPeriods

/-!
# Expressions on a clock without changes

Where the offset never changes an expression is a matter of the wall clock alone. Both adapters follow
the wall clock then, moments in microseconds and stamps in nanoseconds, so that what they return shows
the wall time that is computed from the units of the expression (`Expression.Resolved.onWall`), and the
zone has no further part in it.
-/

namespace RelativeTime

open Expression (Resolved)

/-- What is on the wall after an operation, if reading the clock shows `start`. -/
def Operation.onWall (scale start wall : Int) : Operation TimeUnit → Int
  | .readClock => start
  | .add unit amount => unit.addAt scale amount wall
  | .round unit direction => unit.roundAt scale direction wall

def Expression.Resolved.onWall (scale : Int) (resolved : Resolved TimeUnit) (direction : Direction)
    (start : Int) : Int :=
  (resolved.operations direction).foldl (Operation.onWall scale start) start

/-- The tick that a rounding leads to, or the tick itself without one. -/
def TimeUnit.roundAt? (scale : Int) (direction : Direction) (unit? : Option TimeUnit) (wall : Int) :
    Int :=
  unit?.elim wall (·.roundAt scale direction wall)

theorem Expression.Resolved.onWall_eq (scale : Int) (resolved : Resolved TimeUnit)
    (direction : Direction) (start : Int) :
    resolved.onWall scale direction start =
      let rounded := TimeUnit.roundAt? scale direction resolved.rounding start
      resolved.offset.elim rounded fun offset =>
        TimeUnit.roundAt? scale direction offset.rounding
          (offset.unit.addAt scale offset.amount rounded) := by
  have folded : ∀ (unit? : Option TimeUnit) (wall : Int),
      (unit?.toList.map (Operation.round · direction)).foldl (Operation.onWall scale start) wall =
        TimeUnit.roundAt? scale direction unit? wall := by
    intro unit? wall
    cases unit? <;> rfl
  obtain ⟨rounding, offset⟩ := resolved
  cases offset with
  | none => simp [onWall, operations, Operation.onWall, folded]
  | some offset => simp [onWall, operations, Operation.onWall, folded]

variable {τ ζ ε : Type}

/-! ## Adapters that follow the wall clock -/

/-- Every call of the adapter does to the wall time that a time shows what its operation does on the
wall. -/
structure Adapter.FollowsWall (adapter : Adapter TimeUnit τ ζ ε) (context : Context ζ)
    (scale start : Int) (Shows : τ → Int → Prop) : Prop where
  clock : ∀ {time}, adapter.clock context = .ok time → Shows time start
  add : ∀ {unit amount before after wall}, Shows before wall →
    adapter.add unit before amount context = .ok after → Shows after (unit.addAt scale amount wall)
  round : ∀ {unit direction before after wall}, Shows before wall →
    adapter.round unit direction before context = .ok after →
      Shows after (unit.roundAt scale direction wall)

section

variable {adapter : Adapter TimeUnit τ ζ ε} {context : Context ζ} {scale start : Int}
  {Shows : τ → Int → Prop}

theorem Adapter.FollowsWall.answer {operation : Operation TimeUnit} {time? : Option τ}
    {call : Call TimeUnit τ ζ} {time : τ} {wall : Int}
    (follows : adapter.FollowsWall context scale start Shows)
    (shows : ∀ before ∈ time?, Shows before wall) (asked : operation.call? context time? = some call)
    (answered : adapter.answer call = .ok time) : Shows time (operation.onWall scale start wall) := by
  cases operation with
  | readClock =>
    obtain rfl := Option.some.inj asked
    exact follows.clock answered
  | add unit amount =>
    obtain ⟨before, rfl, rfl⟩ := Option.map_eq_some_iff.mp asked
    exact follows.add (shows before rfl) answered
  | round unit direction =>
    obtain ⟨before, rfl, rfl⟩ := Option.map_eq_some_iff.mp asked
    exact follows.round (shows before rfl) answered

theorem Chain.shows_of_ok {time? : Option τ} {operations : List (Operation TimeUnit)}
    {exchanges : List (Exchange TimeUnit τ ζ ε)} {time : τ} {wall : Int}
    (chain : Chain adapter context time? operations exchanges (.ok time))
    (follows : adapter.FollowsWall context scale start Shows)
    (shows : ∀ before ∈ time?, Shows before wall) :
    Shows time (operations.foldl (Operation.onWall scale start) wall) := by
  generalize success : (.ok time : Except ε τ) = answer at chain
  induction chain generalizing wall with
  | finished last =>
    obtain rfl := Except.ok.inj success
    exact shows _ rfl
  | failed => contradiction
  | continued asked answered _ inductionHypothesis =>
    have next := follows.answer shows asked answered
    exact inductionHypothesis (fun before same => Option.some.inj same ▸ next) success

theorem Parser.exists_shows_of_parse [Text.Alphabet] {parser : Parser TimeUnit ζ} {text : String}
    {direction : Direction} {timezone : Option ζ} {time : τ}
    (follows : adapter.FollowsWall (parser.context timezone) scale start Shows)
    (parsed : (parser.parse adapter text direction timezone).result = .ok time) :
    ∃ resolved, parser.resolve text = (.ok resolved : Except (Failure ε) _) ∧
      Shows time (resolved.onWall scale direction start) := by
  obtain ⟨resolved, resolves, chain⟩ := exists_chain_of_parse parsed
  exact ⟨resolved, resolves, chain.shows_of_ok follows
    fun _ absent => absurd absent (Option.not_mem_none _)⟩

/-- Two readings of one expression show wall times that are in order if those are that the expression
computes. -/
theorem Parser.exists_shows_in_order [Text.Alphabet] {parser : Parser TimeUnit ζ} {text : String}
    {adapter' : Adapter TimeUnit τ ζ ε} {start' : Int} {direction direction' : Direction}
    {timezone : Option ζ} {time time' : τ}
    (follows : adapter.FollowsWall (parser.context timezone) scale start Shows)
    (follows' : adapter'.FollowsWall (parser.context timezone) scale start' Shows)
    (ordered : ∀ resolved, parser.resolve text = (.ok resolved : Except (Failure ε) _) →
      resolved.onWall scale direction start ≤ resolved.onWall scale direction' start')
    (parsed : (parser.parse adapter text direction timezone).result = .ok time)
    (parsed' : (parser.parse adapter' text direction' timezone).result = .ok time') :
    ∃ wall wall', Shows time wall ∧ Shows time' wall' ∧ wall ≤ wall' := by
  obtain ⟨resolved, resolves, shows⟩ := exists_shows_of_parse follows parsed
  obtain ⟨_, resolves', shows'⟩ := exists_shows_of_parse follows' parsed'
  obtain rfl := Except.ok.inj (resolves.symm.trans resolves')
  exact ⟨_, _, shows, shows', ordered resolved resolves⟩

end

/-! ## Moments -/

namespace Moment

variable {zone : Zone} {offset delta wall : Int} {v w : Moment}

/-- The moment shows the wall time on a clock of the zone. -/
def Shows (zone : Zone) (v : Moment) (wall : Int) : Prop :=
  v.zone = some zone ∧ v.wall = wall

/-- A moment is what it shows and whether it is marked. -/
theorem Shows.eq (shows : Shows zone v wall) (shows' : Shows zone w wall)
    (sameMark : v.secondPass = w.secondPass) : v = w := by
  obtain ⟨inZone, rfl⟩ := shows
  obtain ⟨inZone', sameWall⟩ := shows'
  cases v
  cases w
  simp_all only

section

variable (steady : zone.Steady offset)
include steady

theorem shows_ofInstant (u : Int) : Shows zone (ofInstant zone u) (u + offset * perSecond) := by
  rw [ofInstant_of_steady steady]
  exact ⟨rfl, rfl⟩

/-- There is one local form that shows a wall time. -/
theorem LocalIn.eq_of_shows (localIn : LocalIn zone v) (localIn' : LocalIn zone w)
    (shows : Shows zone v wall) (shows' : Shows zone w wall) : v = w := by
  refine shows.eq shows' ?_
  obtain ⟨u, rfl⟩ := localIn
  obtain ⟨u', rfl⟩ := localIn'
  rw [ofInstant_of_steady steady, ofInstant_of_steady steady]

theorem Shows.instant_eq (shows : Shows zone v wall) : v.instant = wall - offset * perSecond := by
  obtain ⟨inZone, rfl⟩ := shows
  exact instant_of_steady steady inZone

theorem shows_of_normalize {secondPass : Bool}
    (normalized : normalize ⟨wall, secondPass, some zone⟩ = .ok w) : Shows zone w wall := by
  rw [(succeedsIf_normalize_of_steady steady wall secondPass).eq_of_ok normalized]
  exact ⟨rfl, rfl⟩

/-- What is rounded up is not marked, and what is rounded down only if it is of universal time. -/
theorem secondPass_of_round {unit : TimeUnit} {direction : Direction} (inZone : v.zone = some zone)
    (rounded : Moment.round unit direction v = .ok w) :
    w.secondPass = (direction = .down && keptMark unit v) := by
  cases direction with
  | up =>
    obtain ⟨u, rfl⟩ := localIn_of_round_up inZone rounded
    rw [ofInstant_of_steady steady]
    rfl
  | down =>
    cases unit with
    | clock unit =>
      have floored : clockFloor unit v = .ok w := rounded
      rw [clockFloor, inZone] at floored
      rw [(succeedsIf_normalize_of_steady steady _ _).eq_of_ok floored, keptMark, inZone]
      rfl
    | calendar unit =>
      obtain ⟨u, rfl⟩ := localIn_of_normalize inZone rounded
      rw [ofInstant_of_steady steady]
      rfl

theorem Shows.elapse (shows : Shows zone v wall) (elapsed : v.elapse delta = .ok w) :
    Shows zone w (wall + delta) := by
  obtain ⟨inZone, rfl⟩ := shows
  rw [(succeedsIf_elapse_of_steady steady inZone delta).eq_of_ok elapsed]
  exact ⟨rfl, rfl⟩

theorem Shows.add {unit : TimeUnit} {amount : Int} (shows : Shows zone v wall)
    (added : Moment.add unit v amount = .ok w) : Shows zone w (unit.addAt 1 amount wall) := by
  cases unit with
  | clock unit =>
    obtain ⟨_, -, elapsed⟩ := bind_eq_ok_iff.mp (show clockAdd unit v amount = .ok w from added)
    simpa only [TimeUnit.addAt, Int.one_mul] using shows.elapse steady elapsed
  | calendar unit =>
    obtain ⟨d, moved, read⟩ := bind_eq_ok_iff.mp (show calendarAdd unit v amount = .ok w from added)
    obtain rfl := CalendarUnit.eq_of_shift?_eq_ok moved
    obtain ⟨inZone, rfl⟩ := shows
    rw [inZone] at read
    exact shows_of_normalize steady read

theorem Shows.round {unit : TimeUnit} {direction : Direction} (shows : Shows zone v wall)
    (rounded : Moment.round unit direction v = .ok w) :
    Shows zone w (unit.roundAt 1 direction wall) := by
  obtain ⟨inZone, rfl⟩ := shows
  cases unit with
  | clock unit =>
    have floor : ∀ {start}, clockFloor unit v = .ok start →
        Shows zone start (v.wall / unit.micros * unit.micros) := by
      intro start floored
      rw [clockFloor, inZone, ← Int.ediv_mul_self] at floored
      exact shows_of_normalize steady floored
    cases direction with
    | down =>
      have started := floor rounded
      simpa only [TimeUnit.roundAt, TimeUnit.startAt, TimeUnit.indexAt, Int.one_mul] using started
    | up =>
      obtain ⟨start, floored, elapsed⟩ :=
        bind_eq_ok_iff.mp (show clockCeil unit v = .ok w from rounded)
      obtain ⟨next, reached, before⟩ := bind_eq_ok_iff.mp elapsed
      have ended := ((floor floored).elapse steady reached).elapse steady before
      simpa only [TimeUnit.roundAt, TimeUnit.startAt, TimeUnit.indexAt, Int.one_mul, Int.add_mul,
        Int.sub_eq_add_neg] using ended
  | calendar unit =>
    cases direction with
    | down =>
      rw [Moment.round, calendarFloor, inZone] at rounded
      exact shows_of_normalize steady rounded
    | up =>
      obtain ⟨d, following, started⟩ :=
        bind_eq_ok_iff.mp (show calendarCeil unit v = .ok w from rounded)
      obtain rfl := CalendarUnit.eq_of_next?_eq_ok following
      obtain ⟨next, reached, before⟩ := bind_eq_ok_iff.mp started
      rw [inZone] at reached
      exact (shows_of_normalize steady reached).elapse steady before

/-- Moments follow the wall clock in microseconds. -/
theorem adapter_followsWall [ZoneDatabase] {now : Instant} {context : Context ZoneRef}
    (known : context.timezone.zone = .ok zone) :
    (Moment.adapter now).FollowsWall context 1 (now.nanos / 1000 + offset * perSecond)
      (Shows zone) where
  clock read := by
    obtain ⟨zone', found, shown⟩ := bind_eq_ok_iff.mp read
    obtain rfl := Except.ok.inj (known.symm.trans (eq_of_mapError_eq_ok found))
    rw [eq_of_ofInstant? (eq_of_mapError_eq_ok shown)]
    exact shows_ofInstant steady _
  add shows added := shows.add steady (eq_of_mapError_eq_ok added)
  round shows rounded := shows.round steady (eq_of_mapError_eq_ok rounded)

end

/-- Moments are compared by their wall times. -/
theorem Shows.isAfter_eq_false {wall' : Int} (shows : Shows zone v wall) (shows' : Shows zone w wall')
    (ordered : wall ≤ wall') [ZoneDatabase] (now : Instant) : (Moment.adapter now).isAfter v w = false := by
  refine decide_eq_false ?_
  rw [shows.2, shows'.2]
  omega

end Moment

/-! ## Stamps -/

namespace Stamp

variable {zone : Zone} {offset wall : Int} {v w : Stamp}

/-- The stamp shows the wall time on a clock of the zone. -/
def Shows (zone : Zone) (v : Stamp) (wall : Int) : Prop :=
  v.zone = some zone ∧ v.wall = wall

section

variable (steady : zone.Steady offset)
include steady

theorem shows_iff : Shows zone v wall ↔
    v.zone = some zone ∧ v.count + offset * perSecond = wall := by
  refine and_congr_right fun inZone => ?_
  rw [wall_eq inZone, steady]

theorem instantOf_eq (wall : Int) (isFirst : Bool) :
    instantOf zone wall isFirst = wall - offset * perSecond :=
  instantOf_of_reading_once (steady.reading_eq _)

theorem Shows.add {unit : TimeUnit} {amount : Int} (shows : Shows zone v wall)
    (added : Stamp.add unit v amount = .ok w) : Shows zone w (unit.addAt 1000 amount wall) := by
  cases unit with
  | clock unit =>
    obtain ⟨inZone, rfl⟩ := (shows_iff steady).mp shows
    rw [eq_of_clockAdd added]
    refine (shows_iff steady).mpr ⟨inZone, ?_⟩
    simp only [TimeUnit.addAt, nanos]
    omega
  | calendar unit =>
    obtain ⟨inZone, rfl⟩ := shows
    rw [eq_of_calendarAdd inZone added, instantOf_eq steady]
    exact (shows_iff steady).mpr ⟨rfl, Int.sub_add_cancel _ _⟩

theorem Shows.round {unit : TimeUnit} {direction : Direction} (shows : Shows zone v wall)
    (rounded : Stamp.round unit direction v = .ok w) :
    Shows zone w (unit.roundAt 1000 direction wall) := by
  obtain ⟨inZone, rfl⟩ := shows
  cases unit with
  | clock unit =>
    have floor : ∀ {start}, clockFloor unit v = .ok start →
        start.count + offset * perSecond = v.wall / nanos unit * nanos unit := by
      intro start floored
      rw [eq_of_clockFloor inZone floored, instantOf_eq steady, Int.ediv_mul_self]
      exact Int.sub_add_cancel _ _
    cases direction with
    | down =>
      refine (shows_iff steady).mpr ⟨?_, floor rounded⟩
      rw [eq_of_clockFloor inZone rounded]
    | up =>
      obtain ⟨start, floored, rfl⟩ := eq_of_clockCeil inZone rounded
      refine (shows_iff steady).mpr ⟨rfl, ?_⟩
      have started := floor floored
      change start.count + nanos unit - 1 + offset * perSecond =
        (v.wall / nanos unit + 1) * nanos unit - 1
      rw [Int.add_mul, Int.one_mul]
      omega
  | calendar unit =>
    cases direction with
    | down =>
      rw [eq_of_calendarFloor inZone rounded, instantOf_eq steady]
      exact (shows_iff steady).mpr ⟨rfl, Int.sub_add_cancel _ _⟩
    | up =>
      rw [eq_of_calendarCeil inZone rounded, instantOf_eq steady]
      refine (shows_iff steady).mpr ⟨rfl, ?_⟩
      change unit.next (v.wall / perDay) * perDay - offset * perSecond - 1 + offset * perSecond =
        unit.next (v.wall / perDay) * perDay - 1
      omega

theorem Shows.isAfter_eq_false {wall' : Int} (shows : Shows zone v wall) (shows' : Shows zone w wall')
    (ordered : wall ≤ wall') [ZoneDatabase] (now : Instant) : (Stamp.adapter now).isAfter v w = false := by
  have count := ((shows_iff steady).mp shows).2
  have count' := ((shows_iff steady).mp shows').2
  exact decide_eq_false (by omega)

/-- Stamps follow the wall clock in nanoseconds. -/
theorem adapter_followsWall [ZoneDatabase] {now : Instant} {context : Context ZoneRef}
    (known : context.timezone.zone = .ok zone) :
    (Stamp.adapter now).FollowsWall context 1000 (now.nanos + offset * perSecond) (Shows zone) where
  clock read := by
    obtain ⟨zone', found, shown⟩ := bind_eq_ok_iff.mp read
    obtain rfl := Except.ok.inj ((ZoneRef.zoneForStamp_of_zone known).symm.trans (eq_of_mapError_eq_ok found))
    rw [eq_of_ofCount? (eq_of_mapError_eq_ok shown)]
    exact (shows_iff steady).mpr ⟨rfl, rfl⟩
  add shows added := shows.add steady (eq_of_mapError_eq_ok added)
  round shows rounded := shows.round steady (eq_of_mapError_eq_ok rounded)

end

end Stamp

/-! ## Universal time -/

namespace Parser

/-- A parser in universal time. -/
def utcParser : Parser TimeUnit ZoneRef :=
  ⟨.default (.given .utc)⟩

/-- What clocks in universal time show at a microsecond since 1970. -/
def utcAt (micros : Int) : Moment :=
  .ofInstant .utc (epoch1970 * Moment.perSecond + micros)

/-- A stamp in universal time at a nanosecond since 1970. -/
def utcStampAt (nanos : Int) (isFine : Bool) : Stamp :=
  ⟨Stamp.epoch + nanos, isFine, some .utc⟩

end Parser

end RelativeTime
