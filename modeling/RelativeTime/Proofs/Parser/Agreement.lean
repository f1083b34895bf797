import RelativeTime.Proofs.Parser.Range
import RelativeTime.Proofs.Stamp.Truncation

/-!
# The two adapters agree

An expression is the same chain of operations for moments and for stamps. If the chains start with the
same time, and every operation leads from times that are related to times that are, their answers are
related (`Chain.related_of_ok`). Related here is a stamp to the moment that it is to the whole microsecond,
and the operations keep that as long as no wall time that they read back is skipped or shown twice.
-/

namespace RelativeTime

open Expression (Resolved)

variable {υ τ τ' ζ ζ' ε ε' : Type}

/-! ## Two chains of the same operations -/

/-- The answers of two chains are related if every operation keeps times related, where the first chain
has its call on record. -/
theorem Chain.related_of_ok (Related : τ → τ' → Prop) {adapter : Adapter υ τ ζ ε}
    {adapter' : Adapter υ τ' ζ' ε'} {context : Context ζ} {context' : Context ζ'} {time? : Option τ}
    {time?' : Option τ'} {operations : List (Operation υ)} {exchanges : List (Exchange υ τ ζ ε)}
    {exchanges' : List (Exchange υ τ' ζ' ε')} {time : τ} {time' : τ'}
    (chain : Chain adapter context time? operations exchanges (.ok time))
    (chain' : Chain adapter' context' time?' operations exchanges' (.ok time'))
    (kept : ∀ operation ∈ operations, ∀ time? time?' call call' time time',
      (∀ before ∈ time?, ∀ before' ∈ time?', Related before before') →
      operation.call? context time? = some call → operation.call? context' time?' = some call' →
      ⟨call, .ok time⟩ ∈ exchanges → adapter.answer call = .ok time →
      adapter'.answer call' = .ok time' → Related time time')
    (related : ∀ before ∈ time?, ∀ before' ∈ time?', Related before before') :
    Related time time' := by
  generalize success : (.ok time : Except ε τ) = answer at chain
  generalize success' : (.ok time' : Except ε' τ') = answer' at chain'
  -- the second chain is taken apart along the first, since both have the same operations to carry out
  induction chain generalizing time?' exchanges' with
  | finished last =>
    obtain rfl := Except.ok.inj success
    cases chain' with
    | finished last' =>
      obtain rfl := Except.ok.inj success'
      exact related _ rfl _ rfl
  | failed => contradiction
  | continued asked answered _ inductionHypothesis =>
    cases chain' with
    | failed => contradiction
    | continued asked' answered' rest' =>
      have next := kept _ List.mem_cons_self _ _ _ _ _ _ related asked asked' List.mem_cons_self
        answered answered'
      refine inductionHypothesis (fun operation member time? time?' call call' time time' before
        asked asked' recorded => ?_) ?_ success rest'
      · exact kept operation (List.mem_cons_of_mem _ member) time? time?' call call' time time' before
          asked asked' (List.mem_cons_of_mem _ recorded)
      · rintro _ ⟨⟩ _ ⟨⟩
        exact next

/-! ## Moments and stamps -/

theorem Expression.Resolved.round_up_notMem {resolved : Resolved TimeUnit} {direction : Direction}
    (downOnly : direction = .down ∨
      (resolved.rounding = none ∧ ∀ offset ∈ resolved.offset, offset.rounding = none))
    (unit : TimeUnit) : .round unit .up ∉ resolved.operations direction := by
  obtain ⟨rounding, offset⟩ := resolved
  rcases downOnly with rfl | ⟨rfl, unrounded⟩
  · cases offset <;> simp [operations]
  · cases offset with
    | none => simp [operations]
    | some offset => simp [operations, unrounded offset rfl]

theorem Stamp.TruncatesTo.answer [ZoneDatabase] {zone : Zone} {Exact : Prop} {now : Instant}
    {context : Context ZoneRef} {operation : Operation TimeUnit} {time? : Option Moment}
    {time?' : Option Stamp} {call : Call TimeUnit Moment ZoneRef} {call' : Call TimeUnit Stamp ZoneRef}
    {v : Moment} {s : Stamp} (known : context.timezone.zone = .ok zone) (readsBack : zone.ReadsBack)
    (precise : Exact → 1000 ∣ now.nanos) (notUp : Exact → ∀ unit, operation ≠ .round unit .up)
    (truncates : ∀ before ∈ time?, ∀ before' ∈ time?', TruncatesTo zone Exact before' before)
    (asked : operation.call? context time? = some call)
    (asked' : operation.call? context time?' = some call')
    (once : ∀ wall ∈ call.wallTime?, zone.ShownOnce (wall / Moment.perSecond))
    (answered : (Moment.adapter now).answer call = .ok v)
    (answered' : (Stamp.adapter now).answer call' = .ok s) : TruncatesTo zone Exact s v := by
  cases operation with
  | readClock =>
    obtain rfl := Option.some.inj asked
    obtain rfl := Option.some.inj asked'
    obtain ⟨_, found, shown⟩ := bind_eq_ok_iff.mp answered
    obtain rfl := Except.ok.inj (known.symm.trans (eq_of_mapError_eq_ok found))
    obtain ⟨_, found', shown'⟩ := bind_eq_ok_iff.mp answered'
    obtain rfl := Except.ok.inj ((ZoneRef.zoneForStamp_of_zone known).symm.trans (eq_of_mapError_eq_ok found'))
    rw [eq_of_ofCount? (eq_of_mapError_eq_ok shown')]
    exact ⟨rfl, Moment.eq_of_ofInstant? (eq_of_mapError_eq_ok shown), precise⟩
  | add unit amount =>
    obtain ⟨before, rfl, rfl⟩ := Option.map_eq_some_iff.mp asked
    obtain ⟨before', rfl, rfl⟩ := Option.map_eq_some_iff.mp asked'
    exact (truncates _ rfl _ rfl).add readsBack once (eq_of_mapError_eq_ok answered)
      (eq_of_mapError_eq_ok answered')
  | round unit direction =>
    obtain ⟨before, rfl, rfl⟩ := Option.map_eq_some_iff.mp asked
    obtain ⟨before', rfl, rfl⟩ := Option.map_eq_some_iff.mp asked'
    refine (truncates _ rfl _ rfl).round readsBack once (fun isExact => ?_)
      (eq_of_mapError_eq_ok answered) (eq_of_mapError_eq_ok answered')
    cases direction with
    | down => rfl
    | up => exact absurd rfl (notUp isExact unit)

namespace Parser

/-- If the parses of an expression with both adapters succeed, and the zone skips and repeats none of the
wall times that are read back on the way, the stamp is the moment to the whole microsecond, under the same
offset. It is that moment and no more if the clock is read to the microsecond and nothing is rounded up.
Zones with a fixed offset read local time back, and they skip and repeat nothing. -/
theorem adapters_agree [Text.Alphabet] [ZoneDatabase] (parser : Parser TimeUnit ZoneRef) (now : Instant)
    (text : String) (direction : Direction) (timezone : Option ZoneRef) {zone : Zone} {v : Moment}
    {s : Stamp} (known : (parser.context timezone).timezone.zone = .ok zone)
    (readsBack : zone.ReadsBack)
    (once : ∀ exchange ∈ (parser.dialogue (Moment.adapter now) text direction timezone).steps,
      ∀ wall ∈ exchange.call.wallTime?, zone.ShownOnce (wall / Moment.perSecond))
    (moments : (parser.parse (Moment.adapter now) text direction timezone).result = .ok v)
    (stamps : (parser.parse (Stamp.adapter now) text direction timezone).result = .ok s) :
    s.count / 1000 = v.instant ∧ v.offset? = some s.period.offset.seconds ∧
      (∀ resolved, parser.resolve text = (.ok resolved : Except (Failure AdapterError) _) →
        1000 ∣ now.nanos →
        direction = .down ∨
          (resolved.rounding = none ∧ ∀ offset ∈ resolved.offset, offset.rounding = none) →
        s.count = 1000 * v.instant) ∧
      (∀ offset, (Zone.fixed offset).ReadsBack ∧ ∀ second, (Zone.fixed offset).ShownOnce second) := by
  obtain ⟨resolved, resolves, chain⟩ := exists_chain_of_parse moments
  obtain ⟨_, resolves', chain'⟩ := exists_chain_of_parse stamps
  obtain rfl := Except.ok.inj (resolves.symm.trans resolves')
  have truncates : s.TruncatesTo zone
      (1000 ∣ now.nanos ∧ ∀ unit, .round unit .up ∉ resolved.operations direction) v := by
    refine Chain.related_of_ok (fun v s => Stamp.TruncatesTo zone _ s v) chain chain' ?_
      fun _ absent => absurd absent (Option.not_mem_none _)
    intro operation member time? time?' call call' time time' before asked asked' recorded answered
      answered'
    exact Stamp.TruncatesTo.answer known readsBack (fun isExact => isExact.1)
      (fun isExact unit same => isExact.2 unit (same ▸ member)) before asked asked' (once _ recorded)
      answered answered'
  have instant : v.instant = s.count / 1000 := by
    rw [truncates.moment_eq, Moment.instant_of_readsBack readsBack]
  refine ⟨instant.symm, truncates.offset?_eq readsBack, fun resolved' resolves' precise downOnly => ?_,
    fun offset => ⟨(Zone.steady_fixed offset).readsBack, (Zone.steady_fixed offset).shownOnce⟩⟩
  obtain rfl := Except.ok.inj (resolves.symm.trans resolves')
  have whole := truncates.whole ⟨precise, Expression.Resolved.round_up_notMem downOnly⟩
  omega

/-- Noon of October 24th, 2024 in universal time. -/
def autumnNoon : Instant :=
  ⟨(epoch1970 + 1729771200) * 1000000000, false⟩

/-- A week on, the clock has been set back, and both adapters find the ends of the same day. -/
theorem week_past_set_back :
    Moment.hourChanges.ReadsBack ∧
      (hourChangesParser.parse (Moment.adapter autumnNoon) "now/h+1w/d" .up none).result =
        .ok (shownAt 1730415599999999) ∧
      (hourChangesParser.parse (Stamp.adapter autumnNoon) "now/h+1w/d" .up none).result =
        .ok ⟨Stamp.epoch + 1730415599999999999, true, some Moment.hourChanges⟩ ∧
      (Stamp.epoch + 1730415599999999999) / 1000 = (shownAt 1730415599999999).instant ∧
      (hourChangesParser.parse (Moment.adapter autumnNoon) "now/h+1w/d" .down none).result =
        .ok (shownAt 1730329200000000) ∧
      (hourChangesParser.parse (Stamp.adapter autumnNoon) "now/h+1w/d" .down none).result =
        .ok ⟨Stamp.epoch + 1730329200000000000, false, some Moment.hourChanges⟩ ∧
      Stamp.epoch + 1730329200000000000 = 1000 * (shownAt 1730329200000000).instant := by
  have spaced := Moment.spaced_hourChanges
  have resolves : hourChangesParser.resolve "now/h+1w/d" =
      (.ok ⟨some (.clock .hour), some ⟨1, .calendar .week, some (.calendar .day)⟩⟩ :
        Except (Failure AdapterError) _) := rfl
  -- the wall times in seconds, all of them read under one offset
  have seconds : ∀ direction,
      ((hourChangesParser.dialogue (Moment.adapter autumnNoon) "now/h+1w/d" direction
        none).steps.filterMap (·.call.wallTime?)).map
          (fun wall => Moment.hourChanges.reading (wall / Moment.perSecond)) =
        [.once 7200, .once 3600, .once 3600] := by
    intro direction
    rw [dialogue_eq_evaluate resolves]
    cases direction <;> rfl
  have once : ∀ direction, ∀ exchange ∈
      (hourChangesParser.dialogue (Moment.adapter autumnNoon) "now/h+1w/d" direction none).steps,
      ∀ wall ∈ exchange.call.wallTime?, Moment.hourChanges.ShownOnce (wall / Moment.perSecond) := by
    intro direction exchange member wall isWall
    have found := List.mem_filterMap.mpr
      (⟨exchange, member, isWall⟩ : ∃ e ∈ _, Call.wallTime? (Exchange.call e) = some wall)
    have reading := List.mem_map_of_mem
      (f := fun wall => Moment.hourChanges.reading (wall / Moment.perSecond)) found
    rw [seconds] at reading
    simp only [List.mem_cons, List.not_mem_nil, or_false] at reading
    rcases reading with reading | reading | reading <;> exact spaced.shownOnce_of_reading reading
  have lastMoment : (hourChangesParser.parse (Moment.adapter autumnNoon) "now/h+1w/d" .up none).result =
      .ok (shownAt 1730415599999999) := (result_parse_of_resolves resolves).trans rfl
  have lastStamp : (hourChangesParser.parse (Stamp.adapter autumnNoon) "now/h+1w/d" .up none).result =
      .ok ⟨Stamp.epoch + 1730415599999999999, true, some Moment.hourChanges⟩ :=
    (result_parse_of_resolves resolves).trans rfl
  have firstMoment : (hourChangesParser.parse (Moment.adapter autumnNoon) "now/h+1w/d" .down
      none).result = .ok (shownAt 1730329200000000) := (result_parse_of_resolves resolves).trans rfl
  have firstStamp : (hourChangesParser.parse (Stamp.adapter autumnNoon) "now/h+1w/d" .down
      none).result = .ok ⟨Stamp.epoch + 1730329200000000000, false, some Moment.hourChanges⟩ :=
    (result_parse_of_resolves resolves).trans rfl
  obtain ⟨truncated, -⟩ := adapters_agree hourChangesParser autumnNoon "now/h+1w/d" .up none rfl
    spaced.readsBack (once .up) lastMoment lastStamp
  obtain ⟨-, -, whole, -⟩ := adapters_agree hourChangesParser autumnNoon "now/h+1w/d" .down none rfl
    spaced.readsBack (once .down) firstMoment firstStamp
  exact ⟨spaced.readsBack, lastMoment, lastStamp, truncated, firstMoment, firstStamp,
    whole _ resolves (by decide) (.inl rfl)⟩

end Parser

end RelativeTime
