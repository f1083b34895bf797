import RelativeTime.Proofs.Parser.RangeOfOne

/-!
# Consecutive periods

On a clock without changes the periods of a unit follow each other without a gap, and adding amounts of
the unit goes from period to period. Adding does not always keep the time within a period, since days are
cut off at the end of a shorter month, so it does not go from the end of a period to the end of another.
But it goes from start to start (`TimeUnit.roundAt_down_addAt`), and a period ends right before the next
one starts. So the range from the start of a period some units ago to the end of the current one has
whole periods in it and nothing else.
-/

namespace RelativeTime

open Expression (Resolved)

variable {υ τ ζ ε : Type}

/-- Adding amounts of the unit to a time takes the period around the time along. Its start comes to the
start of the period around the new time, and that one ends a tick before the start of the next. -/
def Adapter.MovesPeriods (adapter : Adapter υ τ ζ ε) (context : Context ζ) (unit : υ)
    (TickBefore : τ → τ → Prop) (time : τ) : Prop :=
  ∀ n moved start, adapter.add unit time n context = .ok moved →
    adapter.round unit .down time context = .ok start →
      (∀ v w, adapter.round unit .down moved context = .ok v →
        adapter.add unit start n context = .ok w → v = w) ∧
      ∀ last next, adapter.round unit .up moved context = .ok last →
        adapter.add unit start (n + 1) context = .ok next → TickBefore last next

/-- What expressions that add amounts of the unit, and round to the unit, say of its periods. -/
structure Parser.CountsPeriods [Text.Alphabet] (parser : Parser TimeUnit ζ)
    (adapter : Adapter TimeUnit τ ζ ε) (timezone : Option ζ) (unit : TimeUnit) (scale : Int)
    (wall : τ → Int) : Prop where
  /-- It is the same start of a period before and after adding. -/
  sameStart : ∀ n text text',
    parser.resolve text = (.ok ⟨none, some ⟨n, unit, some unit⟩⟩ : Except (Failure ε) _) →
    parser.resolve text' = (.ok ⟨some unit, some ⟨n, unit, none⟩⟩ : Except (Failure ε) _) →
      ∀ v w, (parser.parse adapter text .down timezone).result = .ok v →
        (parser.parse adapter text' .down timezone).result = .ok w → v = w
  /-- A range from `n` units ago to now is accepted if its bounds have values, and it has in it the ticks
  of the period around the time of the clock and of the `n` periods before, and no other ticks. -/
  range : ∀ (n : Nat) start stop,
    parser.resolve start = (.ok ⟨none, some ⟨-n, unit, some unit⟩⟩ : Except (Failure ε) _) →
    parser.resolve stop = (.ok ⟨some unit, none⟩ : Except (Failure ε) _) →
      ∀ first last,
        ((parser.parseRange adapter start stop timezone).result = .ok (first, last) ↔
          (parser.parse adapter start .down timezone).result = .ok first ∧
            (parser.parse adapter stop .up timezone).result = .ok last) ∧
        ((parser.parseRange adapter start stop timezone).result = .ok (first, last) →
          ∃ clock, adapter.clock (parser.context timezone) = .ok clock ∧
            ∀ tick, wall first ≤ tick ∧ tick ≤ wall last ↔
              unit.indexAt scale (wall clock) - n ≤ unit.indexAt scale tick ∧
                unit.indexAt scale tick ≤ unit.indexAt scale (wall clock))

/-! ## Adapters that follow the wall clock -/

section

variable {adapter : Adapter TimeUnit τ ζ ε} {context : Context ζ} {scale reading : Int}
  {Shows : τ → Int → Prop} {unit : TimeUnit} {time moved start : τ} {wall n : Int}
  (follows : adapter.FollowsWall context scale reading Shows) (positive : 0 < scale)
include follows positive

/-- The start of the period around the new time is shown at the wall time to which the start is moved. -/
theorem Adapter.FollowsWall.exists_shows_start (shows : Shows time wall)
    (added : adapter.add unit time n context = .ok moved)
    (started : adapter.round unit .down time context = .ok start) {v w : τ}
    (rounded : adapter.round unit .down moved context = .ok v)
    (readded : adapter.add unit start n context = .ok w) : ∃ wall, Shows v wall ∧ Shows w wall := by
  have left := follows.round (follows.add shows added) rounded
  have right := follows.add (follows.round shows started) readded
  rw [unit.roundAt_down_addAt positive] at left
  exact ⟨_, left, right⟩

/-- The period around the new time ends a tick before the wall time to which the next start is moved. -/
theorem Adapter.FollowsWall.exists_shows_end (shows : Shows time wall)
    (added : adapter.add unit time n context = .ok moved)
    (started : adapter.round unit .down time context = .ok start) {last next : τ}
    (rounded : adapter.round unit .up moved context = .ok last)
    (readded : adapter.add unit start (n + 1) context = .ok next) :
    ∃ wall, Shows last (wall - 1) ∧ Shows next wall := by
  have left := follows.round (follows.add shows added) rounded
  have right := follows.add (follows.round shows started) readded
  rw [unit.roundAt_up_addAt positive] at left
  exact ⟨_, left, right⟩

end

section

variable {zone : Zone} {offset : Int} (steady : zone.Steady offset) (now : Instant)
  (context : Context ZoneRef) (unit : TimeUnit)
include steady

namespace Moment

theorem movesPeriods [ZoneDatabase] {v : Moment} (inZone : v.zone = some zone) :
    (Moment.adapter now).MovesPeriods context unit
      (fun last next => last.instant + 1 = next.instant) v := by
  have follows : (Moment.adapter now).FollowsWall ⟨.given zone⟩ _ _ _ :=
    adapter_followsWall steady rfl
  intro n moved start added started
  constructor
  · -- what both return is a local form, and there is only one that shows the wall time
    intro before after rounded readded
    obtain ⟨wall, left, right⟩ :=
      follows.exists_shows_start Int.one_pos ⟨inZone, rfl⟩ added started rounded readded
    have movedIn := localIn_of_add inZone (eq_of_mapError_eq_ok added)
    have startIn := zone_of_round_down inZone (eq_of_mapError_eq_ok started)
    exact (localIn_of_round movedIn (eq_of_mapError_eq_ok rounded)).eq_of_shows steady
      (localIn_of_add startIn (eq_of_mapError_eq_ok readded)) left right
  · intro last next rounded readded
    obtain ⟨wall, left, right⟩ :=
      follows.exists_shows_end Int.one_pos ⟨inZone, rfl⟩ added started rounded readded
    rw [left.instant_eq steady, right.instant_eq steady]
    omega

end Moment

namespace Stamp

theorem movesPeriods [ZoneDatabase] {s : Stamp} (inZone : s.zone = some zone) :
    (Stamp.adapter now).MovesPeriods context unit
      (fun last next => last.count + 1 = next.count) s := by
  have follows : (Stamp.adapter now).FollowsWall ⟨.given zone⟩ _ _ _ :=
    adapter_followsWall steady rfl
  have positive : (0 : Int) < 1000 := by decide
  intro n moved start added started
  have moves : moved.zone = some zone ∧ moved.isFine = s.isFine :=
    keeps_of_add inZone (eq_of_mapError_eq_ok added)
  have starts : start.zone = some zone ∧ start.isFine = s.isFine :=
    keeps_of_round_down inZone (eq_of_mapError_eq_ok started)
  constructor
  · -- a stamp is its count and its width, and neither operation makes it finer
    intro before after rounded readded
    obtain ⟨wall, left, right⟩ :=
      follows.exists_shows_start positive ⟨inZone, rfl⟩ added started rounded readded
    obtain ⟨beforeIn, count⟩ := (shows_iff steady).mp left
    obtain ⟨afterIn, count'⟩ := (shows_iff steady).mp right
    have width : before.isFine = after.isFine := by
      rw [(keeps_of_round_down moves.1 (eq_of_mapError_eq_ok rounded)).2,
        (keeps_of_add starts.1 (eq_of_mapError_eq_ok readded)).2, moves.2, starts.2]
    cases before
    cases after
    simp_all only [mk.injEq, and_self, and_true]
    omega
  · intro last next rounded readded
    obtain ⟨wall, left, right⟩ :=
      follows.exists_shows_end positive ⟨inZone, rfl⟩ added started rounded readded
    have count := ((shows_iff steady).mp left).2
    have count' := ((shows_iff steady).mp right).2
    omega

end Stamp

end

/-! ## Expressions -/

namespace Parser

section

variable [Text.Alphabet] {parser : Parser TimeUnit ζ} {adapter : Adapter TimeUnit τ ζ ε}
  {timezone : Option ζ} {unit : TimeUnit}

/-- The times that an expression with an offset passes through. -/
theorem exists_calls_of_parse {text : String} {direction : Direction} {rounding final : Option TimeUnit}
    {n : Int} {time : τ} (resolves : parser.resolve text =
      (.ok ⟨rounding, some ⟨n, unit, final⟩⟩ : Except (Failure ε) _))
    (parsed : (parser.parse adapter text direction timezone).result = .ok time) :
    ∃ clock rounded moved, adapter.clock (parser.context timezone) = .ok clock ∧
      (adapter.performRound? rounding direction clock (parser.context timezone)).result = .ok rounded ∧
      adapter.add unit rounded n (parser.context timezone) = .ok moved ∧
      (adapter.performRound? final direction moved (parser.context timezone)).result = .ok time := by
  rw [result_parse_of_resolves resolves] at parsed
  have evaluated := eq_of_mapError_eq_ok parsed
  rw [Resolved.result_evaluate] at evaluated
  obtain ⟨clock, shown, rest⟩ := bind_eq_ok_iff.mp evaluated
  obtain ⟨rounded, first, rest⟩ := bind_eq_ok_iff.mp rest
  obtain ⟨moved, added, last⟩ := bind_eq_ok_iff.mp rest
  exact ⟨clock, rounded, moved, shown, first, added, last⟩

variable {scale reading : Int} {Shows : τ → Int → Prop} {wall : τ → Int}

/-- From `n` units ago to now are the last `n` periods and the one that is not over yet. -/
theorem bounds_of_followsWall
    (follows : adapter.FollowsWall (parser.context timezone) scale reading Shows)
    (positive : 0 < scale) {n : Nat} {start stop : String}
    (starts : parser.resolve start =
      (.ok ⟨none, some ⟨-n, unit, some unit⟩⟩ : Except (Failure ε) _))
    (stops : parser.resolve stop = (.ok ⟨some unit, none⟩ : Except (Failure ε) _)) {first last : τ}
    (begins : (parser.parse adapter start .down timezone).result = .ok first)
    (ends : (parser.parse adapter stop .up timezone).result = .ok last) :
    ∃ shown shown', Shows first shown ∧ Shows last shown' ∧ shown ≤ shown' ∧
      ∀ tick, shown ≤ tick ∧ tick ≤ shown' ↔
        unit.indexAt scale reading - n ≤ unit.indexAt scale tick ∧
          unit.indexAt scale tick ≤ unit.indexAt scale reading := by
  obtain ⟨_, same, showsFirst⟩ := exists_shows_of_parse follows begins
  obtain rfl := Except.ok.inj (starts.symm.trans same)
  obtain ⟨_, same, showsLast⟩ := exists_shows_of_parse follows ends
  obtain rfl := Except.ok.inj (stops.symm.trans same)
  have firstTick : Resolved.onWall scale ⟨none, some ⟨-n, unit, some unit⟩⟩ .down reading =
      unit.startAt scale (unit.indexAt scale reading - n) := by
    rw [Resolved.onWall_eq]
    change unit.startAt scale (unit.indexAt scale (unit.addAt scale (-n) reading)) = _
    rw [unit.indexAt_addAt positive, Int.sub_eq_add_neg]
  have lastTick : Resolved.onWall scale ⟨some unit, none⟩ .up reading =
      unit.startAt scale (unit.indexAt scale reading + 1) - 1 := Resolved.onWall_eq ..
  rw [firstTick] at showsFirst
  rw [lastTick] at showsLast
  -- the reading itself is in the last of the periods
  have present : unit.startAt scale (unit.indexAt scale reading - n) ≤ reading ∧
      reading ≤ unit.startAt scale (unit.indexAt scale reading + 1) - 1 :=
    (unit.mem_periods_iff positive).mpr ⟨by omega, Int.le_refl _⟩
  exact ⟨_, _, showsFirst, showsLast, Int.le_trans present.1 present.2,
    fun tick => unit.mem_periods_iff positive⟩

theorem countsPeriods {TickBefore : τ → τ → Prop}
    (follows : adapter.FollowsWall (parser.context timezone) scale reading Shows)
    (positive : 0 < scale) (wall_eq : ∀ {time shown}, Shows time shown → wall time = shown)
    (inOrder : ∀ {first last shown shown'}, Shows first shown → Shows last shown' → shown ≤ shown' →
      adapter.isAfter first last = false)
    (moves : ∀ clock, adapter.clock (parser.context timezone) = .ok clock →
      adapter.MovesPeriods (parser.context timezone) unit TickBefore clock) :
    parser.CountsPeriods adapter timezone unit scale wall where
  sameStart n text text' resolves resolves' v w parsed parsed' := by
    -- both expressions start from the clock, and each leaves out one of the roundings
    obtain ⟨clock, _, moved, shown, unrounded, added, rounded⟩ := exists_calls_of_parse resolves parsed
    obtain rfl := Except.ok.inj unrounded
    obtain ⟨_, start, _, shown', started, readded, unrounded⟩ :=
      exists_calls_of_parse resolves' parsed'
    obtain rfl := Except.ok.inj unrounded
    obtain rfl := Except.ok.inj (shown.symm.trans shown')
    exact (moves clock shown n moved start added started).1 v _ rounded readded
  range n start stop starts stops first last := by
    refine ⟨⟨parse_of_parseRange, fun ⟨begins, ends⟩ => ?_⟩, fun accepted => ?_⟩
    · obtain ⟨_, _, showsFirst, showsLast, ordered, -⟩ :=
        bounds_of_followsWall follows positive starts stops begins ends
      exact parseRange_of_inOrder (inOrder showsFirst showsLast ordered) begins ends
    · obtain ⟨begins, ends⟩ := parse_of_parseRange accepted
      obtain ⟨clock, -, -, shown, -⟩ := exists_calls_of_parse starts begins
      obtain ⟨_, _, showsFirst, showsLast, -, covers⟩ :=
        bounds_of_followsWall follows positive starts stops begins ends
      rw [wall_eq showsFirst, wall_eq showsLast]
      refine ⟨clock, shown, ?_⟩
      rwa [wall_eq (follows.clock shown)]

end

/-- On a clock without changes the periods of every unit tile the time line, with either adapter. Adding
amounts of a unit takes starts of periods to starts of periods, and every period ends one tick before the
next one starts, a tick being a microsecond for moments and a nanosecond for stamps. So an expression
that adds and then rounds down has the value of the one that rounds down and then adds, and the range
from `n` units ago to now has exactly the last `n + 1` periods in it. -/
theorem periods_tile_time [Text.Alphabet] [ZoneDatabase] (parser : Parser TimeUnit ZoneRef) (now : Instant)
    (timezone : Option ZoneRef) {zone : Zone} {offset : Int}
    (known : (parser.context timezone).timezone.zone = .ok zone) (steady : zone.Steady offset)
    (unit : TimeUnit) :
    (∀ v : Moment, v.zone = some zone →
      (Moment.adapter now).MovesPeriods (parser.context timezone) unit
        (fun last next => last.instant + 1 = next.instant) v) ∧
    parser.CountsPeriods (Moment.adapter now) timezone unit 1 Moment.wall ∧
    (∀ s : Stamp, s.zone = some zone →
      (Stamp.adapter now).MovesPeriods (parser.context timezone) unit
        (fun last next => last.count + 1 = next.count) s) ∧
    parser.CountsPeriods (Stamp.adapter now) timezone unit 1000 Stamp.wall := by
  have moments : (Moment.adapter now).FollowsWall _ _ _ _ := Moment.adapter_followsWall steady known
  have stamps : (Stamp.adapter now).FollowsWall _ _ _ _ := Stamp.adapter_followsWall steady known
  have momentMoves : ∀ v : Moment, v.zone = some zone → (Moment.adapter now).MovesPeriods _ unit _ v :=
    fun v inZone => Moment.movesPeriods steady now (parser.context timezone) unit inZone
  have stampMoves : ∀ s : Stamp, s.zone = some zone → (Stamp.adapter now).MovesPeriods _ unit _ s :=
    fun s inZone => Stamp.movesPeriods steady now (parser.context timezone) unit inZone
  refine ⟨momentMoves, ?_, stampMoves, ?_⟩
  · refine countsPeriods moments Int.one_pos (fun shows => shows.2) ?_
      fun clock shown => momentMoves clock (moments.clock shown).1
    exact fun shows shows' ordered => shows.isAfter_eq_false shows' ordered now
  · refine countsPeriods stamps (by decide) (fun shows => shows.2) ?_
      fun clock shown => stampMoves clock (stamps.clock shown).1
    exact fun shows shows' ordered => shows.isAfter_eq_false steady shows' ordered now

/-- Noon on January 31st, 2027. -/
def lastNoonOfJanuary : Instant :=
  ⟨(epoch1970 + 1801396800) * 1000000000, false⟩

/-- A month after January 31st is February 28th, and February ends where the second month after the start
of January starts. The range from two months ago to that noon starts with November 1st. -/
theorem months_of_winter :
    Zone.utc.Steady 0 ∧
      (Moment.adapter lastNoonOfJanuary).add (.calendar .month) (utcAt 1801396800000000) 1
        (utcParser.context none) = .ok (utcAt 1803816000000000) ∧
      (Moment.adapter lastNoonOfJanuary).round (.calendar .month) .up (utcAt 1803816000000000)
        (utcParser.context none) = .ok (utcAt 1803859199999999) ∧
      (Moment.adapter lastNoonOfJanuary).add (.calendar .month) (utcAt 1798761600000000) 2
        (utcParser.context none) = .ok (utcAt 1803859200000000) ∧
      (utcAt 1803859199999999).instant + 1 = (utcAt 1803859200000000).instant ∧
      (utcParser.parseRange (Moment.adapter lastNoonOfJanuary) "now-2mo/mo" "now/mo" none).result =
        .ok (utcAt 1793491200000000, utcAt 1801439999999999) ∧
      (utcParser.parseRange (Stamp.adapter lastNoonOfJanuary) "now-2mo/mo" "now/mo" none).result =
        .ok (utcStampAt 1793491200000000000 false, utcStampAt 1801439999999999999 true) := by
  have steady : Zone.utc.Steady 0 := Zone.steady_fixed .zero
  have known : (utcParser.context none).timezone.zone = .ok .utc := rfl
  have starts : utcParser.resolve "now-2mo/mo" =
      (.ok ⟨none, some ⟨-2, .calendar .month, some (.calendar .month)⟩⟩ :
        Except (Failure AdapterError) _) := rfl
  have stops : utcParser.resolve "now/mo" =
      (.ok ⟨some (.calendar .month), none⟩ : Except (Failure AdapterError) _) := rfl
  obtain ⟨moves, moments, -, stamps⟩ :=
    periods_tile_time utcParser lastNoonOfJanuary none known steady (.calendar .month)
  have month := moves (utcAt 1801396800000000) rfl 1 (utcAt 1803816000000000)
    (utcAt 1798761600000000) rfl rfl
  refine ⟨steady, rfl, rfl, rfl, month.2 _ _ rfl rfl, ?_, ?_⟩
  · apply ((moments.range 2 _ _ starts stops _ _).1).mpr
    exact ⟨(result_parse_of_resolves starts).trans rfl, (result_parse_of_resolves stops).trans rfl⟩
  · apply ((stamps.range 2 _ _ starts stops _ _).1).mpr
    exact ⟨(result_parse_of_resolves starts).trans rfl, (result_parse_of_resolves stops).trans rfl⟩

end Parser

end RelativeTime
