import RelativeTime.Parser

/-!
# Dialogues are chains of calls

What a parser asks its adapter is laid down by `Chain`, which knows nothing of parsers: operations are
carried out one after the other, each call gets the time that the call before it returned and the one
context of the chain, and the first call that fails is the last. The dialogue for an expression that
resolves is the chain of the operations of that expression, for every adapter whatsoever.

Two chains put together are a chain, so the proof follows the expression from left to right.
-/

namespace RelativeTime

variable {υ τ ζ ε : Type}

/-- What an expression asks for, from left to right, rounding in one direction throughout. -/
def Expression.Resolved.operations (resolved : Resolved υ) (direction : Direction) :
    List (Operation υ) :=
  .readClock :: (resolved.rounding.toList.map (.round · direction) ++
    resolved.offset.elim [] fun offset =>
      .add offset.unit offset.amount :: offset.rounding.toList.map (.round · direction))

/-! ## Chains -/

/-- The call that carries out an operation. All but reading the clock need a time. -/
def Operation.call? (context : Context ζ) : Operation υ → Option τ → Option (Call υ τ ζ)
  | .readClock, _ => some (.readClock context)
  | .add unit amount, time? => time?.map (.add unit amount · context)
  | .round unit direction, time? => time?.map (.round unit direction · context)

/-- The calls of an adapter in which operations are carried out one after the other, starting with
the given time if there is one, and the answer in the end. -/
inductive Chain (adapter : Adapter υ τ ζ ε) (context : Context ζ) :
    Option τ → List (Operation υ) → List (Exchange υ τ ζ ε) → Except ε τ → Prop where
  /-- With nothing left to do the answer is the time so far. -/
  | finished (time : τ) : Chain adapter context (some time) [] [] (.ok time)
  /-- The error of a call is the answer, and no call follows. -/
  | failed {time? : Option τ} {operation : Operation υ} {operations : List (Operation υ)}
      {call : Call υ τ ζ} {error : ε} (asked : operation.call? context time? = some call)
      (answered : adapter.answer call = .error error) :
      Chain adapter context time? (operation :: operations) [⟨call, .error error⟩] (.error error)
  /-- The time that a call returns goes to the next. -/
  | continued {time? : Option τ} {operation : Operation υ} {operations : List (Operation υ)}
      {call : Call υ τ ζ} {time : τ} {exchanges : List (Exchange υ τ ζ ε)} {answer : Except ε τ}
      (asked : operation.call? context time? = some call)
      (answered : adapter.answer call = .ok time)
      (rest : Chain adapter context (some time) operations exchanges answer) :
      Chain adapter context time? (operation :: operations) (⟨call, .ok time⟩ :: exchanges) answer

variable {adapter : Adapter υ τ ζ ε} {context : Context ζ} {time? : Option τ}
  {operations more : List (Operation υ)} {exchanges exchanges' : List (Exchange υ τ ζ ε)}
  {answer answer' : Except ε τ}

/-- The operations and the adapter leave no choice. -/
theorem Chain.unique (first : Chain adapter context time? operations exchanges answer)
    (second : Chain adapter context time? operations exchanges' answer') :
    exchanges = exchanges' ∧ answer = answer' := by
  -- at every step both chains make the same call, and an adapter has one answer to a call
  induction first generalizing exchanges' with
  | finished time =>
    cases second
    exact ⟨rfl, rfl⟩
  | failed asked answered =>
    cases second with
    | failed asked' answered' =>
      obtain rfl := Option.some.inj (asked.symm.trans asked')
      obtain rfl := Except.error.inj (answered.symm.trans answered')
      exact ⟨rfl, rfl⟩
    | continued asked' answered' _ =>
      obtain rfl := Option.some.inj (asked.symm.trans asked')
      rw [answered] at answered'
      contradiction
  | continued asked answered rest inductionHypothesis =>
    cases second with
    | failed asked' answered' =>
      obtain rfl := Option.some.inj (asked.symm.trans asked')
      rw [answered] at answered'
      contradiction
    | continued asked' answered' rest' =>
      obtain rfl := Option.some.inj (asked.symm.trans asked')
      obtain rfl := Except.ok.inj (answered.symm.trans answered')
      obtain ⟨rfl, rfl⟩ := inductionHypothesis rest'
      exact ⟨rfl, rfl⟩

/-- Whatever is asked for, the first call is made. -/
theorem Chain.exchanges_ne_nil {operation : Operation υ}
    (chain : Chain adapter context time? (operation :: operations) exchanges answer) :
    exchanges ≠ [] := by
  cases chain <;> exact List.cons_ne_nil _ _

/-- A chain that fails leaves out whatever would follow. -/
theorem Chain.append_of_error {error : ε}
    (chain : Chain adapter context time? operations exchanges (.error error)) :
    Chain adapter context time? (operations ++ more) exchanges (.error error) := by
  -- the answer is an index of the chain, so the induction needs it as a variable
  generalize failure : (.error error : Except ε τ) = answer at chain
  induction chain with
  | finished => contradiction
  | failed asked answered => exact .failed asked answered
  | continued asked answered _ inductionHypothesis =>
    exact .continued asked answered (inductionHypothesis failure)

/-- A chain that succeeds is continued from the time that it returns. -/
theorem Chain.append_of_ok {time : τ}
    (chain : Chain adapter context time? operations exchanges (.ok time))
    (next : Chain adapter context (some time) more exchanges' answer') :
    Chain adapter context time? (operations ++ more) (exchanges ++ exchanges') answer' := by
  generalize success : (.ok time : Except ε τ) = answer at chain
  induction chain with
  | finished =>
    obtain rfl := Except.ok.inj success
    exact next
  | failed => contradiction
  | continued asked answered _ inductionHypothesis =>
    exact .continued asked answered (inductionHypothesis success)

/-- Runs that are chains are a chain when one follows the other. -/
theorem Chain.andThen {run : Run (Exchange υ τ ζ ε) ε τ} {next : τ → Run (Exchange υ τ ζ ε) ε τ}
    (chain : Chain adapter context time? operations run.steps run.result)
    (chains : ∀ time,
      Chain adapter context (some time) more (next time).steps (next time).result) :
    Chain adapter context time? (operations ++ more) (run.andThen next).steps
      (run.andThen next).result := by
  obtain ⟨steps, result⟩ := run
  cases result with
  | ok time => exact chain.append_of_ok (chains time)
  | error error => exact chain.append_of_error

/-! ## What is recorded of a chain -/

/-- The steps are the operations with their values: all of them, with the answer as the last value,
or those before the one that failed. -/
def Recorded (operations : List (Operation υ)) (steps : List (Step υ τ)) : Except ε τ → Prop
  | .ok time => steps.map (·.operation) = operations ∧ steps.getLast?.map (·.value) = some time
  | .error _ => ∃ operation rest, operations = steps.map (·.operation) ++ operation :: rest

theorem operation_of_call? {operation : Operation υ} {call : Call υ τ ζ}
    (asked : operation.call? context time? = some call) : call.operation = operation := by
  cases operation with
  | readClock =>
    obtain rfl := Option.some.inj asked
    rfl
  | add | round =>
    obtain ⟨time, -, rfl⟩ := Option.map_eq_some_iff.mp asked
    rfl

/-- Every operation was a step, and the last step has the answer, unless there was none and the answer
is the time at the start. -/
theorem Chain.steps_of_ok {time : τ}
    (chain : Chain adapter context time? operations exchanges (.ok time)) :
    (exchanges.filterMap Exchange.step?).map (·.operation) = operations ∧
      (((exchanges.filterMap Exchange.step?).getLast?.map (·.value)).or time?) = some time := by
  generalize success : (.ok time : Except ε τ) = answer at chain
  induction chain with
  | finished =>
    obtain rfl := Except.ok.inj success
    exact ⟨rfl, rfl⟩
  | failed => contradiction
  | @continued _ _ _ call next _ _ asked _ _ inductionHypothesis =>
    obtain ⟨operations, last⟩ := inductionHypothesis success
    have recorded : (⟨call, .ok next⟩ : Exchange υ τ ζ ε).step? = some ⟨call.operation, next⟩ := rfl
    rw [List.filterMap_cons_some recorded]
    refine ⟨by rw [List.map_cons, operations, operation_of_call? asked], ?_⟩
    rw [List.getLast?_cons]
    cases lastStep : (List.filterMap Exchange.step? _).getLast? <;> simp_all

theorem Chain.steps_of_error {error : ε}
    (chain : Chain adapter context time? operations exchanges (.error error)) :
    ∃ operation rest,
      operations = (exchanges.filterMap Exchange.step?).map (·.operation) ++ operation :: rest := by
  generalize failure : (.error error : Except ε τ) = answer at chain
  induction chain with
  | finished => contradiction
  | @failed _ operation rest => exact ⟨operation, rest, rfl⟩
  | @continued _ _ _ call next _ _ asked _ _ inductionHypothesis =>
    obtain ⟨operation, rest, split⟩ := inductionHypothesis failure
    have recorded : (⟨call, .ok next⟩ : Exchange υ τ ζ ε).step? = some ⟨call.operation, next⟩ := rfl
    refine ⟨operation, rest, ?_⟩
    rw [List.filterMap_cons_some recorded, List.map_cons, split, operation_of_call? asked]
    rfl

theorem Chain.recorded (chain : Chain adapter context none operations exchanges answer) :
    Recorded operations (exchanges.filterMap Exchange.step?) answer := by
  cases answer with
  | ok time => exact ⟨chain.steps_of_ok.1, by simpa using chain.steps_of_ok.2⟩
  | error error => exact chain.steps_of_error

/-! ## Expressions -/

theorem chain_perform {operation : Operation υ} {call : Call υ τ ζ}
    (asked : operation.call? context time? = some call) :
    Chain adapter context time? [operation] (adapter.perform call).steps
      (adapter.perform call).result := by
  rw [Adapter.perform, Run.single]
  cases answered : adapter.answer call with
  | ok time => exact .continued asked answered (.finished time)
  | error error => exact .failed asked answered

theorem chain_performRound? (unit? : Option υ) (direction : Direction) (time : τ) :
    Chain adapter context (some time) (unit?.toList.map (.round · direction))
      (adapter.performRound? unit? direction time context).steps
      (adapter.performRound? unit? direction time context).result := by
  cases unit? with
  | none => exact .finished time
  | some unit => exact chain_perform rfl

/-- Evaluating an expression is the chain of its operations. -/
theorem chain_evaluate (resolved : Expression.Resolved υ) (direction : Direction) :
    Chain adapter context none (resolved.operations direction)
      (resolved.evaluate adapter direction context).steps
      (resolved.evaluate adapter direction context).result := by
  refine Chain.andThen (chain_perform rfl : Chain _ _ _ [.readClock] _ _) fun time => ?_
  refine Chain.andThen (chain_performRound? resolved.rounding direction time) fun time => ?_
  cases resolved.offset with
  | none => exact .finished time
  | some offset =>
    refine Chain.andThen (chain_perform rfl : Chain _ _ _ [.add offset.unit offset.amount] _ _)
      fun time => ?_
    exact chain_performRound? offset.rounding direction time

/-- What an expression comes to, without the record. -/
theorem Expression.Resolved.result_evaluate (resolved : Resolved υ) (direction : Direction) :
    (resolved.evaluate adapter direction context).result = (do
      let start ← adapter.clock context
      let time ← (adapter.performRound? resolved.rounding direction start context).result
      match resolved.offset with
      | none => return time
      | some offset =>
        let moved ← adapter.add offset.unit time offset.amount context
        (adapter.performRound? offset.rounding direction moved context).result) := by
  obtain ⟨rounding, offset⟩ := resolved
  cases offset with
  | none => simp only [evaluate, Run.bind_eq, Run.result_andThen]; rfl
  | some offset => simp only [evaluate, Run.bind_eq, Run.result_andThen]; rfl

/-! ## Parsers -/

namespace Parser

variable [Text.Alphabet]

/-- The dialogue for an expression that resolves is its evaluation. -/
theorem dialogue_eq_evaluate {parser : Parser υ ζ} {text : String} {direction : Direction}
    {timezone : Option ζ} {resolved : Expression.Resolved υ}
    (resolves : parser.resolve text = (.ok resolved : Except (Failure ε) _)) :
    parser.dialogue adapter text direction timezone =
      (resolved.evaluate adapter direction (parser.context timezone)).mapError .adapter := by
  simp [dialogue, resolves]

theorem dialogueRange_of_error {parser : Parser υ ζ} {start : String} {timezone : Option ζ}
    {failure : Failure ε} (stop : String)
    (failed : (parser.dialogue adapter start .down timezone).result = .error failure) :
    parser.dialogueRange adapter start stop timezone =
      ⟨(parser.dialogue adapter start .down timezone).steps, .error failure⟩ := by
  rw [dialogueRange, Run.bind_eq, Run.andThen_of_error failed]

theorem dialogueRange_of_ok {parser : Parser υ ζ} {start : String} {timezone : Option ζ}
    {first : τ} (stop : String)
    (succeeded : (parser.dialogue adapter start .down timezone).result = .ok first) :
    parser.dialogueRange adapter start stop timezone =
      ⟨(parser.dialogue adapter start .down timezone).steps ++
          (parser.dialogue adapter stop .up timezone).steps,
        (parser.dialogue adapter stop .up timezone).result.bind fun last =>
          if adapter.isAfter first last then .error (.reversedRange start stop)
          else .ok (first, last)⟩ := by
  rw [dialogueRange, Run.bind_eq, Run.andThen_of_ok succeeded]
  cases outcome : (parser.dialogue adapter stop .up timezone).result with
  | error failure =>
    rw [Run.bind_eq, Run.andThen_of_error outcome]
    rfl
  | ok last =>
    rw [Run.bind_eq, Run.andThen_of_ok outcome]
    -- comparing the bounds asks nothing of the adapter
    cases after : adapter.isAfter first last <;>
      simp [Run.failed, Run.done, Except.bind, after]

/-- An expression that resolves is a chain of calls, whatever the adapter: its operations from left
to right, up to the first that fails, in the context of the time zone that was given or else the
configured one. A range is the chain of its start, rounded down, and then that of its end, rounded
up; if the start fails, nothing is asked for the end, and if the end fails, so does the range. -/
theorem dialogue_follows_operations (parser : Parser υ ζ) (adapter : Adapter υ τ ζ ε) :
    (∀ (text : String) (direction : Direction) (timezone : Option ζ)
      (resolved : Expression.Resolved υ),
      parser.resolve text = (.ok resolved : Except (Failure ε) _) →
      ∃ answer : Except ε τ,
        (∀ exchanges final,
          Chain adapter ⟨timezone.getD parser.config.timezone⟩ none (resolved.operations direction)
              exchanges final ↔
            exchanges = (parser.dialogue adapter text direction timezone).steps ∧
              final = answer) ∧
        (parser.dialogue adapter text direction timezone).result = answer.mapError .adapter ∧
        (parser.parse adapter text direction timezone).result = answer.mapError .adapter ∧
        Recorded (resolved.operations direction)
          (parser.parse adapter text direction timezone).steps answer) ∧
    (∀ (start stop : String) (timezone : Option ζ),
      (∀ failure, (parser.dialogue adapter start .down timezone).result = .error failure →
        parser.dialogueRange adapter start stop timezone =
          ⟨(parser.dialogue adapter start .down timezone).steps, .error failure⟩) ∧
      (∀ first, (parser.dialogue adapter start .down timezone).result = .ok first →
        parser.dialogueRange adapter start stop timezone =
          ⟨(parser.dialogue adapter start .down timezone).steps ++
              (parser.dialogue adapter stop .up timezone).steps,
            (parser.dialogue adapter stop .up timezone).result.bind fun last =>
              if adapter.isAfter first last then .error (.reversedRange start stop)
              else .ok (first, last)⟩)) := by
  constructor
  · intro text direction timezone resolved resolves
    have chain : Chain adapter (parser.context timezone) none (resolved.operations direction) _ _ :=
      chain_evaluate resolved direction
    refine ⟨(resolved.evaluate adapter direction (parser.context timezone)).result, ?_⟩
    rw [parse, dialogue_eq_evaluate resolves]
    refine ⟨fun exchanges final => ⟨fun other => other.unique chain, ?_⟩, rfl, rfl, chain.recorded⟩
    rintro ⟨rfl, rfl⟩
    exact chain
  · intro start stop timezone
    exact ⟨fun _ failed => dialogueRange_of_error stop failed,
      fun _ succeeded => dialogueRange_of_ok stop succeeded⟩

end Parser

end RelativeTime
