import RelativeTime.Proofs.Parser.SteadyClock

/-!
# A later clock never gives an earlier time

On a clock without changes an expression is a function of the wall time that it starts from, and nearly
all of its steps keep the order of wall times. Adding months or years does not: the 30th and the 31st of
January both come to the last of February, and then only the times of day count. An expression with such
a step keeps the order all the same if one of its roundings is to a calendar unit, since a rounding before
the step leaves nothing of the time of day to be compared, and a rounding after it looks at the day alone.
-/

namespace RelativeTime

open Expression (Resolved)

/-- The expression adds no months or years, or one of its roundings is to a calendar unit. -/
def Expression.Resolved.KeepsOrder (resolved : Resolved TimeUnit) : Prop :=
  (∀ offset ∈ resolved.offset,
      offset.unit ≠ .calendar .month ∧ offset.unit ≠ .calendar .year) ∨
    (∃ unit, resolved.rounding = some (.calendar unit)) ∨
    ∃ unit, resolved.finalRounding = some (.calendar unit)

section

variable {scale wall wall' : Int} (positive : 0 < scale)
include positive

theorem TimeUnit.roundAt?_le_roundAt? (direction : Direction) (unit? : Option TimeUnit)
    (ordered : wall ≤ wall') :
    roundAt? scale direction unit? wall ≤ roundAt? scale direction unit? wall' := by
  cases unit? with
  | none => exact ordered
  | some unit => exact unit.roundAt_le_roundAt positive direction ordered

theorem Expression.Resolved.onWall_le_onWall {resolved : Resolved TimeUnit}
    (keeps : resolved.KeepsOrder) (direction : Direction) (later : wall ≤ wall') :
    resolved.onWall scale direction wall ≤ resolved.onWall scale direction wall' := by
  obtain ⟨rounding, offset⟩ := resolved
  have rounded := TimeUnit.roundAt?_le_roundAt? positive direction rounding later
  rw [onWall_eq, onWall_eq]
  cases offset with
  | none => exact rounded
  | some offset =>
    obtain ⟨amount, unit, final⟩ := offset
    rcases keeps with plain | ⟨first, isFirst⟩ | ⟨last, isLast⟩
    · obtain ⟨notMonth, notYear⟩ := plain _ rfl
      apply TimeUnit.roundAt?_le_roundAt? positive
      exact unit.addAt_le_addAt_of_ne amount notMonth notYear rounded
    · -- both times are at the same time of day, so what is added keeps them in order
      obtain rfl : rounding = some (.calendar first) := isFirst
      apply TimeUnit.roundAt?_le_roundAt? positive
      apply unit.addAt_le_addAt positive amount
      exact TimeUnit.noLaterInDay_roundAt_calendar positive first direction later
    · -- the times may have changed places, but not their days
      obtain rfl : final = some (.calendar last) := isLast
      apply TimeUnit.roundAt_calendar_le_of_day_le positive last direction
      exact unit.day_addAt_le_day_addAt positive amount rounded

end

namespace Parser

/-- On a clock without changes, of two clock readings the later never gives the earlier time, whichever
direction is rounded in and with either adapter, for every expression that adds no months or years or
that is rounded to days, weeks, months or years before or after it adds them. -/
theorem later_clock_gives_no_earlier_time [Text.Alphabet] [ZoneDatabase] (parser : Parser TimeUnit ZoneRef)
    (text : String) (direction : Direction) (timezone : Option ZoneRef) {zone : Zone} {offset : Int}
    {resolved : Resolved TimeUnit} (known : (parser.context timezone).timezone.zone = .ok zone)
    (steady : zone.Steady offset)
    (resolves : parser.resolve text = (.ok resolved : Except (Failure AdapterError) _))
    (keeps : resolved.KeepsOrder) {now now' : Instant} (later : now.nanos ≤ now'.nanos) :
    (∀ v w : Moment,
      (parser.parse (Moment.adapter now) text direction timezone).result = .ok v →
      (parser.parse (Moment.adapter now') text direction timezone).result = .ok w →
        v.instant ≤ w.instant ∧ v.wall ≤ w.wall) ∧
    (∀ s t : Stamp,
      (parser.parse (Stamp.adapter now) text direction timezone).result = .ok s →
      (parser.parse (Stamp.adapter now') text direction timezone).result = .ok t →
        s.count ≤ t.count) := by
  have wallOrder : ∀ {scale start start' : Int}, 0 < scale → start ≤ start' → ∀ resolved',
      parser.resolve text = (.ok resolved' : Except (Failure AdapterError) _) →
        resolved'.onWall scale direction start ≤ resolved'.onWall scale direction start' := by
    intro scale start start' positive ordered resolved' resolves'
    obtain rfl := Except.ok.inj (resolves.symm.trans resolves')
    exact Resolved.onWall_le_onWall positive keeps direction ordered
  constructor
  · intro v w parsed parsed'
    have start : now.nanos / 1000 + offset * Moment.perSecond ≤
        now'.nanos / 1000 + offset * Moment.perSecond := by omega
    obtain ⟨_, _, shows, shows', ordered⟩ := exists_shows_in_order
      (Moment.adapter_followsWall steady known) (Moment.adapter_followsWall steady known)
      (wallOrder Int.one_pos start) parsed parsed'
    rw [shows.instant_eq steady, shows'.instant_eq steady, shows.2, shows'.2]
    exact ⟨Int.sub_le_sub_right ordered _, ordered⟩
  · intro s t parsed parsed'
    have start : now.nanos + offset * Stamp.perSecond ≤ now'.nanos + offset * Stamp.perSecond :=
      Int.add_le_add_right later _
    obtain ⟨_, _, shows, shows', ordered⟩ := exists_shows_in_order
      (Stamp.adapter_followsWall steady known) (Stamp.adapter_followsWall steady known)
      (wallOrder (by decide) start) parsed parsed'
    have count := ((Stamp.shows_iff steady).mp shows).2
    have count' := ((Stamp.shows_iff steady).mp shows').2
    omega

/-- January 30th, 2027 at 23:00 in universal time. -/
def beforeMidnight : Instant :=
  ⟨(epoch1970 + 1801350000) * 1000000000, false⟩

/-- January 31st, 2027 at 01:00 in universal time, to the nanosecond. -/
def afterMidnight : Instant :=
  ⟨(epoch1970 + 1801357200) * 1000000000, true⟩

/-- A month after 23:00 is February 28th at 23:00, and a month after 01:00 on the next day is the same
day at 01:00. The weeks that both are in end together. -/
theorem week_after_month_of_both_hours :
    beforeMidnight.nanos ≤ afterMidnight.nanos ∧
      (utcParser.parse (Moment.adapter beforeMidnight) "now+1mo" .up none).result =
        .ok (utcAt 1803855600000000) ∧
      (utcParser.parse (Moment.adapter afterMidnight) "now+1mo" .up none).result =
        .ok (utcAt 1803776400000000) ∧
      (utcParser.parse (Moment.adapter beforeMidnight) "now+1mo/w" .up none).result =
        .ok (utcAt 1803859199999999) ∧
      (utcParser.parse (Moment.adapter afterMidnight) "now+1mo/w" .up none).result =
        .ok (utcAt 1803859199999999) ∧
      (utcAt 1803859199999999).instant ≤ (utcAt 1803859199999999).instant ∧
      (utcParser.parse (Stamp.adapter beforeMidnight) "now+1mo/w" .up none).result =
        .ok (utcStampAt 1803859199999999999 true) ∧
      (utcParser.parse (Stamp.adapter afterMidnight) "now+1mo/w" .up none).result =
        .ok (utcStampAt 1803859199999999999 true) ∧
      (utcStampAt 1803859199999999999 true).count ≤
        (utcStampAt 1803859199999999999 true).count := by
  have steady : Zone.utc.Steady 0 := Zone.steady_fixed .zero
  have known : (utcParser.context none).timezone.zone = .ok .utc := rfl
  have unrounded : utcParser.resolve "now+1mo" =
      (.ok ⟨none, some ⟨1, .calendar .month, none⟩⟩ : Except (Failure AdapterError) _) := rfl
  have resolves : utcParser.resolve "now+1mo/w" =
      (.ok ⟨none, some ⟨1, .calendar .month, some (.calendar .week)⟩⟩ :
        Except (Failure AdapterError) _) := rfl
  have keeps : (⟨none, some ⟨1, .calendar .month, some (.calendar .week)⟩⟩ :
      Resolved TimeUnit).KeepsOrder := .inr (.inr ⟨.week, rfl⟩)
  have later : beforeMidnight.nanos ≤ afterMidnight.nanos := by decide
  have moment : (utcParser.parse (Moment.adapter beforeMidnight) "now+1mo/w" .up none).result =
      .ok (utcAt 1803859199999999) := (result_parse_of_resolves resolves).trans rfl
  have moment' : (utcParser.parse (Moment.adapter afterMidnight) "now+1mo/w" .up none).result =
      .ok (utcAt 1803859199999999) := (result_parse_of_resolves resolves).trans rfl
  have stamp : (utcParser.parse (Stamp.adapter beforeMidnight) "now+1mo/w" .up none).result =
      .ok (utcStampAt 1803859199999999999 true) := (result_parse_of_resolves resolves).trans rfl
  have stamp' : (utcParser.parse (Stamp.adapter afterMidnight) "now+1mo/w" .up none).result =
      .ok (utcStampAt 1803859199999999999 true) := (result_parse_of_resolves resolves).trans rfl
  obtain ⟨moments, stamps⟩ := later_clock_gives_no_earlier_time utcParser "now+1mo/w" .up none known
    steady resolves keeps later
  exact ⟨later, (result_parse_of_resolves unrounded).trans rfl,
    (result_parse_of_resolves unrounded).trans rfl, moment, moment', (moments _ _ moment moment').1,
    stamp, stamp', stamps _ _ stamp stamp'⟩

end Parser

end RelativeTime
