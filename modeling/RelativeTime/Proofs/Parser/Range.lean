import RelativeTime.Proofs.Moment.ClockRounding
import RelativeTime.Proofs.Parser.Refusal
import RelativeTime.Zone.Recent
import RelativeTime.TimeAdapter

/-!
# Ranges of moments

The bounds of a range are the local forms of two instants in one zone, since every call of the adapter
of moments returns such a form. They are compared by their wall times, and that is not the order of
the instants where clocks are set back: of two moments the later can show the earlier wall time. It
has to be a second showing then, so between bounds that are both first showings, or both second, the
range has the order of time.
-/

namespace RelativeTime

variable {υ τ ζ ε : Type}

/-! ## What all times of a chain have in common -/

/-- What every call returns, provided that it was called with such a time if with any, is true of the
answer in the end. -/
theorem Chain.holds_of_ok {Holds : τ → Prop} {adapter : Adapter υ τ ζ ε} {context : Context ζ}
    {time? : Option τ} {operations : List (Operation υ)} {exchanges : List (Exchange υ τ ζ ε)}
    {time : τ} (chain : Chain adapter context time? operations exchanges (.ok time))
    (kept : ∀ (operation : Operation υ) time? call time, (∀ before ∈ time?, Holds before) →
      operation.call? context time? = some call → adapter.answer call = .ok time → Holds time)
    (holds : ∀ before ∈ time?, Holds before) : Holds time := by
  generalize success : (.ok time : Except ε τ) = answer at chain
  induction chain with
  | finished last =>
    obtain rfl := Except.ok.inj success
    exact holds _ rfl
  | failed => contradiction
  | continued asked answered _ inductionHypothesis =>
    have returned := kept _ _ _ _ holds asked answered
    exact inductionHypothesis (fun before same => Option.some.inj same ▸ returned) success

/-! ## Times of the adapter of moments -/

namespace Moment

variable {now : Instant} {zone : Zone} {context : Context ZoneRef}

/-- A call returns a local form of the zone if it was called with one. -/
theorem localIn_of_answer [ZoneDatabase] (known : context.timezone.zone = .ok zone)
    (operation : Operation TimeUnit) (time? : Option Moment) (call : Call TimeUnit Moment ZoneRef)
    (time : Moment) (localIn : ∀ before ∈ time?, LocalIn zone before)
    (asked : operation.call? context time? = some call)
    (answered : (Moment.adapter now).answer call = .ok time) : LocalIn zone time := by
  cases operation with
  | readClock =>
    obtain rfl := Option.some.inj asked
    obtain ⟨zone', found, shown⟩ := bind_eq_ok_iff.mp answered
    obtain rfl := Except.ok.inj (known.symm.trans (eq_of_mapError_eq_ok found))
    exact ⟨_, eq_of_ofInstant? (eq_of_mapError_eq_ok shown)⟩
  | add unit amount =>
    obtain ⟨before, rfl, rfl⟩ := Option.map_eq_some_iff.mp asked
    exact localIn_of_add (localIn before rfl).zone_eq (eq_of_mapError_eq_ok answered)
  | round unit direction =>
    obtain ⟨before, rfl, rfl⟩ := Option.map_eq_some_iff.mp asked
    exact localIn_of_round (localIn before rfl) (eq_of_mapError_eq_ok answered)

end Moment

namespace Parser

section

variable [Text.Alphabet]

theorem result_parse (parser : Parser υ ζ) (adapter : Adapter υ τ ζ ε) (text : String)
    (direction : Direction) (timezone : Option ζ) :
    (parser.parse adapter text direction timezone).result =
      (parser.dialogue adapter text direction timezone).result := rfl

theorem result_parse_of_resolves {parser : Parser υ ζ} {adapter : Adapter υ τ ζ ε} {text : String}
    {direction : Direction} {timezone : Option ζ} {resolved : Expression.Resolved υ}
    (resolves : parser.resolve text = (.ok resolved : Except (Failure ε) _)) :
    (parser.parse adapter text direction timezone).result =
      (resolved.evaluate adapter direction (parser.context timezone)).result.mapError .adapter := by
  rw [result_parse, dialogue_eq_evaluate resolves]
  rfl

/-- A text that has a value resolves, and its value is the answer of a chain. -/
theorem exists_chain_of_parse {parser : Parser υ ζ} {adapter : Adapter υ τ ζ ε} {text : String}
    {direction : Direction} {timezone : Option ζ} {time : τ}
    (parsed : (parser.parse adapter text direction timezone).result = .ok time) :
    ∃ resolved, parser.resolve text = (.ok resolved : Except (Failure ε) _) ∧
      Chain adapter (parser.context timezone) none (resolved.operations direction)
        (parser.dialogue adapter text direction timezone).steps (.ok time) := by
  rw [result_parse] at parsed
  cases resolves : (parser.resolve text : Except (Failure ε) _) with
  | error failure =>
    rw [dialogue_of_error resolves] at parsed
    contradiction
  | ok resolved =>
    rw [dialogue_eq_evaluate resolves] at parsed ⊢
    have chain : Chain adapter (parser.context timezone) none (resolved.operations direction) _ _ :=
      chain_evaluate resolved direction
    rw [eq_of_mapError_eq_ok parsed] at chain
    exact ⟨resolved, rfl, chain⟩

/-- What becomes of a range whose two expressions have a value. -/
theorem result_parseRange {parser : Parser υ ζ} {adapter : Adapter υ τ ζ ε} {start stop : String}
    {timezone : Option ζ} {first last : τ}
    (begins : (parser.parse adapter start .down timezone).result = .ok first)
    (ends : (parser.parse adapter stop .up timezone).result = .ok last) :
    (parser.parseRange adapter start stop timezone).result =
      if adapter.isAfter first last then .error (.reversedRange start stop)
      else .ok (first, last) := by
  rw [result_parse] at begins ends
  rw [parseRange, dialogueRange_of_ok stop begins, Run.pick, ends]
  rfl

/-- A range that is accepted has the values of its two expressions as its bounds. -/
theorem parse_of_parseRange {parser : Parser υ ζ} {adapter : Adapter υ τ ζ ε} {start stop : String}
    {timezone : Option ζ} {first last : τ}
    (accepted : (parser.parseRange adapter start stop timezone).result = .ok (first, last)) :
    (parser.parse adapter start .down timezone).result = .ok first ∧
      (parser.parse adapter stop .up timezone).result = .ok last := by
  cases begins : (parser.parse adapter start .down timezone).result with
  | error failure =>
    rw [parseRange, dialogueRange_of_error stop begins] at accepted
    contradiction
  | ok lower =>
    cases ends : (parser.parse adapter stop .up timezone).result with
    | error failure =>
      rw [result_parse] at ends
      rw [parseRange, dialogueRange_of_ok stop begins, Run.pick, ends] at accepted
      contradiction
    | ok upper =>
      rw [result_parseRange begins ends] at accepted
      split at accepted
      · contradiction
      · obtain ⟨rfl, rfl⟩ := Prod.mk.inj (Except.ok.inj accepted)
        exact ⟨rfl, rfl⟩

/-- A range has no value because one of its expressions has none or because of its order. -/
theorem parseRange_eq_error {parser : Parser υ ζ} {adapter : Adapter υ τ ζ ε} {start stop : String}
    {timezone : Option ζ} {failure : Failure ε}
    (failed : (parser.parseRange adapter start stop timezone).result = .error failure) :
    (parser.parse adapter start .down timezone).result = .error failure ∨
      (parser.parse adapter stop .up timezone).result = .error failure ∨
        failure = .reversedRange start stop := by
  cases begins : (parser.parse adapter start .down timezone).result with
  | error other =>
    rw [parseRange, dialogueRange_of_error stop begins] at failed
    obtain rfl := Except.error.inj failed
    exact .inl rfl
  | ok first =>
    cases ends : (parser.parse adapter stop .up timezone).result with
    | error other =>
      rw [result_parse] at ends
      rw [parseRange, dialogueRange_of_ok stop begins, Run.pick, ends] at failed
      obtain rfl := Except.error.inj failed
      exact .inr (.inl rfl)
    | ok last =>
      rw [result_parseRange begins ends] at failed
      split at failed
      · exact .inr (.inr (Except.error.inj failed).symm)
      · cases failed

variable [ZoneDatabase] {parser : Parser TimeUnit ZoneRef} {now : Instant} {zone : Zone}
  {timezone : Option ZoneRef}

/-- The time that an expression denotes is the local form of an instant in the zone of the call. -/
theorem localIn_of_parse (known : (parser.context timezone).timezone.zone = .ok zone)
    {text : String} {direction : Direction} {time : Moment}
    (parsed : (parser.parse (Moment.adapter now) text direction timezone).result = .ok time) :
    Moment.LocalIn zone time := by
  obtain ⟨resolved, -, chain⟩ := exists_chain_of_parse parsed
  exact chain.holds_of_ok (Moment.localIn_of_answer known)
    fun _ absent => absurd absent (Option.not_mem_none _)

/-- A range is accepted if its start shows no later wall time than its end. Where both bounds are first
showings or both are second ones, that is if its start is no later than its end. -/
theorem parseRange_compares_wall_times (parser : Parser TimeUnit ZoneRef) (now : Instant)
    (start stop : String) (timezone : Option ZoneRef) {first last : Moment}
    (begins : (parser.parse (Moment.adapter now) start .down timezone).result = .ok first)
    (ends : (parser.parse (Moment.adapter now) stop .up timezone).result = .ok last) :
    (parser.parseRange (Moment.adapter now) start stop timezone).result =
        (if first.wall ≤ last.wall then .ok (first, last) else .error (.reversedRange start stop)) ∧
      ∀ zone : Zone, (parser.context timezone).timezone.zone = .ok zone → zone.Spaced →
        first.secondPass = last.secondPass →
          (first.wall ≤ last.wall ↔ first.instant ≤ last.instant) := by
  constructor
  · rw [result_parseRange begins ends]
    by_cases ordered : first.wall ≤ last.wall
    · rw [if_pos ordered]
      exact if_neg (by simpa [Moment.adapter] using ordered)
    · rw [if_neg ordered]
      exact if_pos (by simpa [Moment.adapter] using ordered)
  · intro zone known spaced samePass
    obtain ⟨u, rfl⟩ := localIn_of_parse known begins
    obtain ⟨u', rfl⟩ := localIn_of_parse known ends
    rw [Moment.wall_le_wall_iff spaced samePass, Moment.instant_ofInstant spaced,
      Moment.instant_ofInstant spaced]

end

/-- A parser of moments on clocks that are set back from 03:00 to 02:00 on October 27th, 2024. -/
def hourChangesParser : Parser TimeUnit ZoneRef :=
  ⟨.default (.given Moment.hourChanges)⟩

/-- The adapter that reads the clock at a second since 1970. -/
def adapterAt (second : Int) : Adapter TimeUnit Moment ZoneRef AdapterError :=
  Moment.adapter ⟨(epoch1970 + second) * 1000000000, false⟩

/-- What those clocks show at a microsecond since 1970. -/
def shownAt (micros : Int) : Moment :=
  .ofInstant Moment.hourChanges (epoch1970 * Moment.perSecond + micros)

/-- The range over the day of the set back and the day before it is accepted, and its bounds are in the
order of time. -/
theorem range_over_set_back_day :
    (hourChangesParser.parse (adapterAt 1730030400) "now-1d/d" .down none).result =
        .ok (shownAt 1729893600000000) ∧
      (hourChangesParser.parse (adapterAt 1730030400) "now/d" .up none).result =
        .ok (shownAt 1730069999999999) ∧
      (hourChangesParser.parseRange (adapterAt 1730030400) "now-1d/d" "now/d" none).result =
        .ok (shownAt 1729893600000000, shownAt 1730069999999999) ∧
      (shownAt 1729893600000000).instant ≤ (shownAt 1730069999999999).instant := by
  have begins : (hourChangesParser.parse (adapterAt 1730030400) "now-1d/d" .down none).result =
      .ok (shownAt 1729893600000000) := rfl
  have ends : (hourChangesParser.parse (adapterAt 1730030400) "now/d" .up none).result =
      .ok (shownAt 1730069999999999) := rfl
  have ordered : (shownAt 1729893600000000).wall ≤ (shownAt 1730069999999999).wall := by decide
  obtain ⟨accepted, sameOrder⟩ := parseRange_compares_wall_times hourChangesParser _ "now-1d/d" "now/d"
    none begins ends
  exact ⟨begins, ends, accepted.trans (if_pos ordered),
    (sameOrder Moment.hourChanges rfl Moment.spaced_hourChanges (by decide)).mp ordered⟩

/-- Forty minutes after the first showing of 02:30 the clocks show 02:10 for the second time. The range
from the one to the other is refused, and that from the later to the earlier is accepted. -/
theorem range_across_set_back :
    (shownAt 1729989000000000).instant < (shownAt 1729991400000000).instant ∧
      (∀ direction,
        (hourChangesParser.parse (adapterAt 1729989000) "now" direction none).result =
          .ok (shownAt 1729989000000000) ∧
        (hourChangesParser.parse (adapterAt 1729989000) "now+40m" direction none).result =
          .ok (shownAt 1729991400000000)) ∧
      (hourChangesParser.parseRange (adapterAt 1729989000) "now" "now+40m" none).result =
        .error (.reversedRange "now" "now+40m") ∧
      (hourChangesParser.parseRange (adapterAt 1729989000) "now+40m" "now" none).result =
        .ok (shownAt 1729991400000000, shownAt 1729989000000000) := by
  refine ⟨by decide, fun direction => ?_, rfl, rfl⟩
  cases direction <;> exact ⟨rfl, rfl⟩

end Parser

end RelativeTime
