import RelativeTime.Proofs.Parser.Range

/-!
# Errors about time zones

A parsing call fails with an error of its adapter only if the adapter answered a call with it. Both
adapters of time look up a zone when the clock is read and at no other call, so an error about a zone is the
error of the zone that holds for the call.
-/

namespace RelativeTime

variable {υ τ ζ ε : Type}

/-- The error of a chain is what the adapter answered to one of its calls. -/
theorem Chain.exists_call_of_error {adapter : Adapter υ τ ζ ε} {context : Context ζ} {time? : Option τ}
    {operations : List (Operation υ)} {exchanges : List (Exchange υ τ ζ ε)} {error : ε}
    (chain : Chain adapter context time? operations exchanges (.error error)) :
    ∃ (operation : Operation υ) (time? : Option τ) (call : Call υ τ ζ),
      operation.call? context time? = some call ∧ adapter.answer call = .error error := by
  generalize failure : (.error error : Except ε τ) = answer at chain
  induction chain with
  | finished => contradiction
  | @failed time? operation _ call _ asked answered =>
    obtain rfl := Except.error.inj failure
    exact ⟨operation, time?, call, asked, answered⟩
  | continued _ _ _ inductionHypothesis => exact inductionHypothesis failure

/-! ## Where zones are looked up -/

/-- The zone is looked up when the clock is read and not afterwards. -/
structure Adapter.LooksUpZones (adapter : Adapter TimeUnit τ ZoneRef AdapterError)
    (find : ZoneRef → Except ZoneKeyError Zone) : Prop where
  clock : ∀ context error,
    adapter.clock context = .error (.zone error) ↔ find context.timezone = .error error
  add : ∀ unit time amount context error, adapter.add unit time amount context ≠ .error (.zone error)
  round : ∀ unit direction time context error,
    adapter.round unit direction time context ≠ .error (.zone error)

theorem mapError_time_ne_zone {outcome : Except TimeError τ} {error : ZoneKeyError} :
    outcome.mapError AdapterError.time ≠ .error (.zone error) := by
  cases outcome <;> simp [Except.mapError]

theorem clock_eq_zone_error_iff {found : Except ZoneKeyError Zone} {show? : Zone → Except TimeError τ}
    {error : ZoneKeyError} :
    (do
      let zone ← found.mapError AdapterError.zone
      (show? zone).mapError .time) = .error (.zone error) ↔ found = .error error := by
  cases found with
  | error other => simp [Except.mapError, bind, Except.bind]
  | ok zone => exact iff_of_false mapError_time_ne_zone nofun

theorem Moment.adapter_looksUpZones [ZoneDatabase] (now : Instant) :
    (Moment.adapter now).LooksUpZones ZoneRef.zone where
  clock _ _ := clock_eq_zone_error_iff
  add _ _ _ _ _ := mapError_time_ne_zone
  round _ _ _ _ _ := mapError_time_ne_zone

theorem Stamp.adapter_looksUpZones [ZoneDatabase] (now : Instant) :
    (Stamp.adapter now).LooksUpZones ZoneRef.zoneForStamp where
  clock _ _ := clock_eq_zone_error_iff
  add _ _ _ _ _ := mapError_time_ne_zone
  round _ _ _ _ _ := mapError_time_ne_zone

/-! ## Parsing -/

namespace Parser

variable [Text.Alphabet] {parser : Parser TimeUnit ZoneRef}
  {adapter : Adapter TimeUnit τ ZoneRef AdapterError} {find : ZoneRef → Except ZoneKeyError Zone}
  {text start stop : String} {direction : Direction} {timezone : Option ZoneRef} {error : ZoneKeyError}

theorem zone_of_parse (looksUp : adapter.LooksUpZones find)
    (failed : (parser.parse adapter text direction timezone).result = .error (.adapter (.zone error))) :
    find (parser.context timezone).timezone = .error error := by
  rw [result_parse] at failed
  cases resolves : (parser.resolve text : Except (Failure AdapterError) _) with
  | error failure =>
    rw [dialogue_of_error resolves] at failed
    cases failed
    obtain ⟨error, same⟩ | ⟨count, same⟩ := resolve_eq_error resolves <;> cases same
  | ok resolved =>
    rw [dialogue_eq_evaluate resolves, Run.mapError] at failed
    have chain : Chain adapter (parser.context timezone) none (resolved.operations direction) _ _ :=
      chain_evaluate resolved direction
    generalize (resolved.evaluate adapter direction (parser.context timezone)).result = answer at *
    cases answer with
    | ok time => cases failed
    | error other =>
      cases failed
      -- the call that was answered with the error can only be that of the clock
      obtain ⟨operation, time?, call, asked, answered⟩ := chain.exists_call_of_error
      cases operation with
      | readClock =>
        obtain rfl := Option.some.inj asked
        exact (looksUp.clock _ _).mp answered
      | add unit amount =>
        obtain ⟨time, -, rfl⟩ := Option.map_eq_some_iff.mp asked
        exact absurd answered (looksUp.add unit time amount _ error)
      | round unit direction =>
        obtain ⟨time, -, rfl⟩ := Option.map_eq_some_iff.mp asked
        exact absurd answered (looksUp.round unit direction time _ error)

theorem zone_of_parseRange (looksUp : adapter.LooksUpZones find)
    (failed : (parser.parseRange adapter start stop timezone).result =
      .error (.adapter (.zone error))) :
    find (parser.context timezone).timezone = .error error := by
  obtain begins | ends | reversed := parseRange_eq_error failed
  · exact zone_of_parse looksUp begins
  · exact zone_of_parse looksUp ends
  · cases reversed

/-- Without a zone no expression has a value. -/
theorem parse_ne_ok_of_zone_error (looksUp : adapter.LooksUpZones find)
    (unknown : find (parser.context timezone).timezone = .error error) (time : τ) :
    (parser.parse adapter text direction timezone).result ≠ .ok time := by
  rw [result_parse]
  cases resolves : (parser.resolve text : Except (Failure AdapterError) _) with
  | error failure =>
    rw [dialogue_of_error resolves]
    exact nofun
  | ok resolved =>
    have unread := (looksUp.clock (parser.context timezone) error).mpr unknown
    rw [dialogue_eq_evaluate resolves, Run.mapError, resolved.result_evaluate, unread]
    exact nofun

end Parser

end RelativeTime
