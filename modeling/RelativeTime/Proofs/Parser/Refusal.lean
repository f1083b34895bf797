import RelativeTime.Proofs.Expression.Reading
import RelativeTime.Proofs.Expression.Resolving
import RelativeTime.Proofs.Parser.Dialogue

/-!
# What is refused before any call

A parser looks at the direction, the grammar, the number of digits and the names of an expression, in
this order, and asks its adapter nothing until all of them are in order. `Refusal` lists what can be
wrong: every case says that what is looked at before it is in order, so a call has at most one
refusal, and it is refused exactly if it has one.
-/

namespace RelativeTime

open Expression (Binds Form LeftmostUnknown Tokens)

variable {υ τ ζ ε : Type}

/-! ## Directions -/

theorem Direction.ofName?_eq_some_iff {name : String} {direction : Direction} :
    Direction.ofName? name = some direction ↔ name = direction.name := by
  rw [ofName?.eq_def]
  split <;> cases direction <;> simp_all [Direction.name]

theorem Direction.ofName?_name (direction : Direction) :
    ofName? direction.name = some direction :=
  ofName?_eq_some_iff.mpr rfl

/-! ## Created parsers -/

theorem config_of_create {config : Config υ ζ} {parser : Parser υ ζ}
    (created : Parser.create config = .ok parser) : parser.config = config := by
  simp only [Parser.create] at created
  split at created
  · contradiction
  · split at created
    · contradiction
    · rw [← Except.ok.inj created]

/-! ## Refusals -/

/-- Why a call is refused, by its text and the word for its direction. -/
inductive Refusal [Text.Alphabet] (config : Config υ ζ) (text : String) :
    String → Failure ε → Prop where
  | unknownDirection {word : String} (unknown : ∀ direction : Direction, word ≠ direction.name) :
      Refusal config text word (.unknownDirection word)
  | malformed (direction : Direction) (underivable : ∀ form : Form, ¬ form.Derives text) :
      Refusal config text direction.name (.parse (.malformed text))
  | tooManyDigits (direction : Direction) (form : Form) (derives : form.Derives text)
      (excessive : Expression.digitLimit < form.digitCount) :
      Refusal config text direction.name (.tooManyDigits form.digitCount)
  | unknownName (direction : Direction) (form : Form) (derives : form.Derives text)
      (convertible : form.digitCount ≤ Expression.digitLimit) {slot : Expression.Slot}
      {name : String}
      (leftmost : LeftmostUnknown config.keywords config.units form.tokens.names slot name) :
      Refusal config text direction.name (.parse (.unknownName slot name))

namespace Parser

section

variable [Text.Alphabet] {parser : Parser υ ζ} {adapter : Adapter υ τ ζ ε}
  {text word : String} {timezone : Option ζ}

/-! ## Resolving texts -/

theorem resolve_of_readError {error : Expression.ReadError}
    (read : Tokens.read text = .error error) :
    parser.resolve text = (.error (.ofRead error) : Except (Failure ε) _) := by
  rw [resolve, read]
  rfl

theorem resolve_of_read {tokens : Tokens} (read : Tokens.read text = .ok tokens) :
    parser.resolve text =
      ((tokens.resolve parser.config.keywords parser.config.units).mapError .parse :
        Except (Failure ε) _) := by
  rw [resolve, read]
  rfl

/-- What does not resolve cannot be read, or has a name that is not known. -/
theorem resolve_eq_error {failure : Failure ε} (unresolved : parser.resolve text = .error failure) :
    (∃ error, failure = .parse error) ∨ ∃ count, failure = .tooManyDigits count := by
  cases read : Tokens.read text with
  | error error =>
    rw [resolve_of_readError read] at unresolved
    obtain rfl := Except.error.inj unresolved
    cases error with
    | malformed text => exact .inl ⟨_, rfl⟩
    | tooManyDigits count => exact .inr ⟨count, rfl⟩
  | ok tokens =>
    rw [resolve_of_read read] at unresolved
    cases named : tokens.resolve parser.config.keywords parser.config.units with
    | error error =>
      rw [named] at unresolved
      exact .inl ⟨error, (Except.error.inj unresolved).symm⟩
    | ok resolved =>
      rw [named] at unresolved
      cases unresolved

theorem dialogueNamed_name (direction : Direction) :
    parser.dialogueNamed adapter text direction.name timezone =
      parser.dialogue adapter text direction timezone := by
  rw [dialogueNamed, Direction.ofName?_name]

theorem dialogue_of_error {direction : Direction} {failure : Failure ε}
    (unresolved : parser.resolve text = .error failure) :
    parser.dialogue adapter text direction timezone = Run.failed failure := by
  rw [dialogue, unresolved]
  rfl

/-- What is refused is refused with the failure of the refusal and without any call. -/
theorem dialogueNamed_of_refusal {failure : Failure ε}
    (refusal : Refusal parser.config text word failure) :
    parser.dialogueNamed adapter text word timezone = Run.failed failure := by
  cases refusal with
  | unknownDirection unknown =>
    have none : Direction.ofName? word = none :=
      Option.eq_none_iff_forall_ne_some.mpr fun direction named =>
        unknown direction (Direction.ofName?_eq_some_iff.mp named)
    rw [dialogueNamed, none]
  | malformed direction underivable =>
    rw [dialogueNamed_name]
    exact dialogue_of_error (resolve_of_readError (Expression.read_of_underivable underivable))
  | tooManyDigits direction form derives excessive =>
    rw [dialogueNamed_name]
    exact dialogue_of_error (resolve_of_readError (Expression.read_of_excessive derives excessive))
  | unknownName direction form derives convertible leftmost =>
    rw [dialogueNamed_name]
    refine dialogue_of_error ?_
    rw [resolve_of_read (Expression.read_of_convertible derives convertible),
      Expression.resolve_of_leftmostUnknown leftmost]
    rfl

/-- With nothing to refuse, the expression resolves, and every name is bound. -/
theorem exists_refusal_or_resolves (parser : Parser υ ζ) (text word : String) :
    (∃ failure : Failure ε, Refusal parser.config text word failure) ∨
      ∃ direction form resolved, word = Direction.name direction ∧ Form.Derives form text ∧
        parser.resolve text = (.ok resolved : Except (Failure ε) _) ∧
        Binds parser.config.units form.tokens resolved := by
  -- the checks in the order in which a parser makes them
  by_cases unknown : ∀ direction : Direction, word ≠ direction.name
  · exact .inl ⟨_, .unknownDirection unknown⟩
  obtain ⟨direction, named⟩ : ∃ direction : Direction, word = direction.name := by
    simpa using unknown
  subst named
  rcases Expression.derives_or_underivable text with ⟨form, derives⟩ | underivable
  · by_cases convertible : form.digitCount ≤ Expression.digitLimit
    · have read := Expression.read_of_convertible derives convertible
      rcases Expression.resolve_cases parser.config.keywords parser.config.units form.tokens with
        ⟨resolved, resolves, -, binds⟩ | ⟨slot, name, -, leftmost⟩
      · refine .inr ⟨direction, form, resolved, rfl, derives, ?_, binds⟩
        rw [resolve_of_read read, resolves]
        rfl
      · exact .inl ⟨_, .unknownName direction form derives convertible leftmost⟩
    · exact .inl ⟨_, .tooManyDigits direction form derives (by omega)⟩
  · exact .inl ⟨_, .malformed direction underivable⟩

/-- An expression that resolves makes at least one call, that of the clock. -/
theorem steps_dialogue_ne_nil {direction : Direction} {resolved : Expression.Resolved υ}
    (resolves : parser.resolve text = (.ok resolved : Except (Failure ε) _)) :
    (parser.dialogue adapter text direction timezone).steps ≠ [] := by
  rw [dialogue_eq_evaluate resolves]
  exact (chain_evaluate resolved direction).exchanges_ne_nil

/-- A call of a parser that has a refusal fails with it and makes no call of the adapter; a call that
makes no call of the adapter has a refusal; and without one the expression resolves, with the slots of
the text, each bound to what the table has for its name, and its amount. -/
theorem refused_before_any_call {config : Config υ ζ} (created : create config = .ok parser)
    (adapter : Adapter υ τ ζ ε) (text word : String) (timezone : Option ζ) :
    (∀ failure, Refusal config text word failure →
      parser.dialogueNamed adapter text word timezone = Run.failed failure ∧
        parser.parseNamed adapter text word timezone = Run.failed failure) ∧
    ((parser.dialogueNamed adapter text word timezone).steps = [] →
      ∃ failure : Failure ε, Refusal config text word failure) ∧
    ((∀ failure : Failure ε, ¬ Refusal config text word failure) →
      ∃ direction form resolved, word = Direction.name direction ∧ Form.Derives form text ∧
        parser.resolve text = (.ok resolved : Except (Failure ε) _) ∧
        Binds config.units form.tokens resolved ∧
        parser.dialogueNamed adapter text word timezone =
          (resolved.evaluate adapter direction (parser.context timezone)).mapError .adapter) := by
  obtain rfl := config_of_create created
  have refusedOrResolves : (∃ failure : Failure ε, Refusal parser.config text word failure) ∨ _ :=
    exists_refusal_or_resolves parser text word
  refine ⟨fun failure refusal => ?_, fun silent => ?_, fun unrefused => ?_⟩
  · have failed : parser.dialogueNamed adapter text word timezone = Run.failed failure :=
      dialogueNamed_of_refusal refusal
    refine ⟨failed, ?_⟩
    rw [parseNamed, failed]
    rfl
  · rcases refusedOrResolves with refused | ⟨direction, form, resolved, rfl, -, resolves, -⟩
    · exact refused
    · rw [dialogueNamed_name] at silent
      exact absurd silent (steps_dialogue_ne_nil resolves)
  · rcases refusedOrResolves with
      ⟨failure, refusal⟩ | ⟨direction, form, resolved, rfl, derives, resolves, binds⟩
    · exact absurd refusal (unrefused failure)
    · refine ⟨direction, form, resolved, rfl, derives, resolves, binds, ?_⟩
      rw [dialogueNamed_name, dialogue_eq_evaluate resolves]

end

/-- Neither name of `then/x` is known, and the failure is about the one on the left. -/
theorem then_refused :
    create (⟨.ofEntries [("d", 'd')], (), ["now"]⟩ : Config Char Unit) =
        .ok ⟨⟨.ofEntries [("d", 'd')], (), ["now"]⟩⟩ ∧
      (⟨⟨.ofEntries [("d", 'd')], (), ["now"]⟩⟩ : Parser Char Unit).dialogueNamed
          (⟨fun _ => .ok 0, fun _ time amount _ => .ok (time + amount), fun _ _ time _ => .ok time,
            fun first last => last < first⟩ : Adapter Char Int Unit Unit) "then/x" "round-up" none =
        Run.failed (.parse (.unknownName .nowKeyword "then")) := by
  have created : create (⟨.ofEntries [("d", 'd')], (), ["now"]⟩ : Config Char Unit) =
      .ok ⟨⟨.ofEntries [("d", 'd')], (), ["now"]⟩⟩ := rfl
  refine ⟨created, ?_⟩
  have derives : (⟨"then".toList, some "x".toList, none⟩ : Form).Derives "then/x" := by
    refine ⟨⟨by decide, ?_, nofun⟩, rfl⟩
    rintro word same
    obtain rfl := Option.some.inj same
    decide
  refine ((refused_before_any_call created _ "then/x" "round-up" none).1 _ ?_).1
  exact .unknownName .up _ derives (by decide)
    ⟨[], [(.nowRounding, "x")], rfl, nofun, by simp [Expression.Known]⟩

end Parser

end RelativeTime
