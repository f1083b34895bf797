import RelativeTime.Proofs.Parser.SteadyClock

/-!
# The range of one expression

A range whose bounds are one and the same expression covers the periods that the expression names, and
on a clock without changes its start is never after its end. The steps of the expression do not all
keep the order of times, since adding months can let two times change places. But the two times that
come out of the first rounding are ordered by their days and also by their times of day
(`TimeUnit.noLaterInDay_roundAt`), and of such times no addition makes the first one the later.
-/

namespace RelativeTime

open Expression (Resolved)

/-- On the wall rounding down comes to no later time than rounding up, whatever the expression. -/
theorem Expression.Resolved.onWall_down_le_onWall_up {scale : Int} (positive : 0 < scale)
    (resolved : Resolved TimeUnit) (start : Int) :
    resolved.onWall scale .down start ≤ resolved.onWall scale .up start := by
  obtain ⟨rounding, offset⟩ := resolved
  have bounds : NoLaterInDay scale (TimeUnit.roundAt? scale .down rounding start)
      (TimeUnit.roundAt? scale .up rounding start) := by
    cases rounding with
    | none => exact .refl scale start
    | some unit => exact unit.noLaterInDay_roundAt positive start
  rw [onWall_eq, onWall_eq]
  cases offset with
  | none => exact bounds.le positive
  | some offset =>
    have moved := offset.unit.addAt_le_addAt positive offset.amount bounds
    obtain ⟨amount, unit, final⟩ := offset
    cases final with
    | none => exact moved
    | some final =>
      exact Int.le_trans (Int.le_trans (final.roundAt_down_le positive _) moved)
        (final.le_roundAt_up positive _)

namespace Parser

section

variable {υ τ ζ ε : Type} [Text.Alphabet] {parser : Parser υ ζ} {adapter : Adapter υ τ ζ ε}
  {timezone : Option ζ}

/-- Only a range is refused for its order. -/
theorem result_dialogue_ne_reversedRange {text start stop : String} {direction : Direction} :
    (parser.dialogue adapter text direction timezone).result ≠
      .error (.reversedRange start stop) := by
  cases resolves : (parser.resolve text : Except (Failure ε) _) with
  | error failure =>
    rw [dialogue_of_error resolves]
    rintro ⟨⟩
    obtain ⟨error, same⟩ | ⟨count, same⟩ := resolve_eq_error resolves <;> cases same
  | ok resolved =>
    rw [dialogue_eq_evaluate resolves, Run.mapError]
    cases (resolved.evaluate adapter direction (parser.context timezone)).result <;> exact nofun

theorem parseRange_of_inOrder {text other : String} {first last : τ}
    (inOrder : adapter.isAfter first last = false)
    (begins : (parser.parse adapter text .down timezone).result = .ok first)
    (ends : (parser.parse adapter other .up timezone).result = .ok last) :
    (parser.parseRange adapter text other timezone).result = .ok (first, last) := by
  rw [result_parseRange begins ends, inOrder]
  rfl

/-- A range is not refused for its order if its bounds, where it has both, are in order. -/
theorem parseRange_ne_reversedRange {text other start stop : String}
    (inOrder : ∀ first last, (parser.parse adapter text .down timezone).result = .ok first →
      (parser.parse adapter other .up timezone).result = .ok last →
        adapter.isAfter first last = false) :
    (parser.parseRange adapter text other timezone).result ≠
      .error (.reversedRange start stop) := by
  cases begins : (parser.dialogue adapter text .down timezone).result with
  | error failure =>
    rw [parseRange, dialogueRange_of_error other begins]
    intro refused
    obtain rfl := Except.error.inj refused
    exact result_dialogue_ne_reversedRange begins
  | ok first =>
    cases ends : (parser.dialogue adapter other .up timezone).result with
    | error failure =>
      rw [parseRange, dialogueRange_of_ok other begins, Run.pick, ends]
      intro refused
      obtain rfl := Except.error.inj refused
      exact result_dialogue_ne_reversedRange ends
    | ok last =>
      rw [parseRange_of_inOrder (inOrder first last begins ends) begins ends]
      intro refused
      cases refused

end

/-- On a clock without changes an expression that is rounded down comes to no later time than the same
expression rounded up, with either adapter. So the range from the expression to itself is accepted with
these bounds, and it is never refused for their order. -/
theorem range_of_one_expression_in_order [Text.Alphabet] [ZoneDatabase] (parser : Parser TimeUnit ZoneRef)
    (now : Instant) (text : String) (timezone : Option ZoneRef) {zone : Zone} {offset : Int}
    (known : (parser.context timezone).timezone.zone = .ok zone) (steady : zone.Steady offset) :
    (∀ first last, (parser.parse (Moment.adapter now) text .down timezone).result = .ok first →
      (parser.parse (Moment.adapter now) text .up timezone).result = .ok last →
        first.instant ≤ last.instant ∧
          (parser.parseRange (Moment.adapter now) text text timezone).result = .ok (first, last)) ∧
    (∀ first last, (parser.parse (Stamp.adapter now) text .down timezone).result = .ok first →
      (parser.parse (Stamp.adapter now) text .up timezone).result = .ok last →
        first.count ≤ last.count ∧
          (parser.parseRange (Stamp.adapter now) text text timezone).result = .ok (first, last)) ∧
    (∀ start stop, (parser.parseRange (Moment.adapter now) text text timezone).result ≠
      .error (.reversedRange start stop)) ∧
    (∀ start stop, (parser.parseRange (Stamp.adapter now) text text timezone).result ≠
      .error (.reversedRange start stop)) := by
  have moments : ∀ first last, (parser.parse (Moment.adapter now) text .down timezone).result =
      .ok first → (parser.parse (Moment.adapter now) text .up timezone).result = .ok last →
        first.instant ≤ last.instant ∧ (Moment.adapter now).isAfter first last = false := by
    intro first last begins ends
    obtain ⟨wall, wall', down, up, ordered⟩ :=
      exists_shows_in_order (Moment.adapter_followsWall steady known)
        (Moment.adapter_followsWall steady known)
        (fun resolved _ => resolved.onWall_down_le_onWall_up Int.one_pos _) begins ends
    rw [down.instant_eq steady, up.instant_eq steady]
    exact ⟨Int.sub_le_sub_right ordered _, down.isAfter_eq_false up ordered now⟩
  have stamps : ∀ first last, (parser.parse (Stamp.adapter now) text .down timezone).result =
      .ok first → (parser.parse (Stamp.adapter now) text .up timezone).result = .ok last →
        first.count ≤ last.count ∧ (Stamp.adapter now).isAfter first last = false := by
    intro first last begins ends
    have positive : (0 : Int) < 1000 := by decide
    obtain ⟨wall, wall', down, up, ordered⟩ :=
      exists_shows_in_order (Stamp.adapter_followsWall steady known)
        (Stamp.adapter_followsWall steady known)
        (fun resolved _ => resolved.onWall_down_le_onWall_up positive _) begins ends
    have count := ((Stamp.shows_iff steady).mp down).2
    have count' := ((Stamp.shows_iff steady).mp up).2
    exact ⟨by omega, down.isAfter_eq_false steady up ordered now⟩
  refine ⟨fun first last begins ends => ?_, fun first last begins ends => ?_,
    fun _ _ => parseRange_ne_reversedRange fun first last begins ends =>
      (moments first last begins ends).2,
    fun _ _ => parseRange_ne_reversedRange fun first last begins ends =>
      (stamps first last begins ends).2⟩
  · obtain ⟨ordered, inOrder⟩ := moments first last begins ends
    exact ⟨ordered, parseRange_of_inOrder inOrder begins ends⟩
  · obtain ⟨ordered, inOrder⟩ := stamps first last begins ends
    exact ⟨ordered, parseRange_of_inOrder inOrder begins ends⟩

/-- Noon on January 27th, 2027. -/
def winterNoon : Instant :=
  ⟨(epoch1970 + 1801051200) * 1000000000, false⟩

/-- A month after the week of January 27th, 2027, which ends on the 31st, is the time from February 25th
to the last moment of February. -/
theorem range_of_month_after_week :
    Zone.utc.Steady 0 ∧
      (utcParser.parse (Moment.adapter winterNoon) "now/w+1mo" .down none).result =
        .ok (utcAt 1803513600000000) ∧
      (utcParser.parse (Moment.adapter winterNoon) "now/w+1mo" .up none).result =
        .ok (utcAt 1803859199999999) ∧
      (utcParser.parseRange (Moment.adapter winterNoon) "now/w+1mo" "now/w+1mo" none).result =
        .ok (utcAt 1803513600000000, utcAt 1803859199999999) ∧
      (utcParser.parse (Stamp.adapter winterNoon) "now/w+1mo" .down none).result =
        .ok (utcStampAt 1803513600000000000 false) ∧
      (utcParser.parse (Stamp.adapter winterNoon) "now/w+1mo" .up none).result =
        .ok (utcStampAt 1803859199999999999 true) ∧
      (utcParser.parseRange (Stamp.adapter winterNoon) "now/w+1mo" "now/w+1mo" none).result =
        .ok (utcStampAt 1803513600000000000 false, utcStampAt 1803859199999999999 true) := by
  have steady : Zone.utc.Steady 0 := Zone.steady_fixed .zero
  have known : (utcParser.context none).timezone.zone = .ok .utc := rfl
  have resolves : utcParser.resolve "now/w+1mo" =
      (.ok ⟨some (.calendar .week), some ⟨1, .calendar .month, none⟩⟩ :
        Except (Failure AdapterError) _) := rfl
  have begins : (utcParser.parse (Moment.adapter winterNoon) "now/w+1mo" .down none).result =
      .ok (utcAt 1803513600000000) := (result_parse_of_resolves resolves).trans rfl
  have ends : (utcParser.parse (Moment.adapter winterNoon) "now/w+1mo" .up none).result =
      .ok (utcAt 1803859199999999) := (result_parse_of_resolves resolves).trans rfl
  have starts : (utcParser.parse (Stamp.adapter winterNoon) "now/w+1mo" .down none).result =
      .ok (utcStampAt 1803513600000000000 false) := (result_parse_of_resolves resolves).trans rfl
  have stops : (utcParser.parse (Stamp.adapter winterNoon) "now/w+1mo" .up none).result =
      .ok (utcStampAt 1803859199999999999 true) := (result_parse_of_resolves resolves).trans rfl
  obtain ⟨moments, stamps, -, -⟩ :=
    range_of_one_expression_in_order utcParser winterNoon "now/w+1mo" none known steady
  exact ⟨steady, begins, ends, (moments _ _ begins ends).2, starts, stops,
    (stamps _ _ starts stops).2⟩

end Parser

end RelativeTime
