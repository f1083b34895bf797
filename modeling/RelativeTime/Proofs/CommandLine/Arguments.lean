import RelativeTime.CommandLine.Arguments
import RelativeTime.Proofs.Locale.AnyOrder

/-!
# Arguments that ask for an evaluation

Arguments are told apart and then consumed from left to right, so what holds of them in the end is shown by
following the consumption: what an option stores is among the choices of the option, and the expressions are
at least one, since `--` gives none by itself.

To start with stored values comes to the same as to fill up with them in the end what was left open
(`consume_over`).
-/

namespace RelativeTime

namespace CommandLine

variable {progress : Progress} {run items : List Item} {arguments base : Arguments}

/-! ## Values that have been checked -/

/-- The locales and the adapter are among the choices. -/
structure Arguments.Checked (arguments : Arguments) : Prop where
  locales : ∀ code ∈ arguments.locales, ∃ locale : Locale, locale.code = code
  adapter : ∀ name, arguments.adapter = some name → ∃ kind : TimeKind, kind.name = name

theorem checkChoice_eq_ok_iff {option : CommandOption} {value : String} :
    checkChoice option value = .ok () ↔ ∀ choices, option.choices? = some choices → value ∈ choices := by
  rw [checkChoice]
  cases option.choices? with
  | none => simp
  | some choices => by_cases member : value ∈ choices <;> simp [member]

theorem checkChoice_locale_iff {code : String} :
    checkChoice .locale code = .ok () ↔ ∃ locale : Locale, locale.code = code := by
  rw [checkChoice_eq_ok_iff]
  constructor
  · intro among
    obtain ⟨locale, -, named⟩ := List.mem_map.mp (among _ rfl)
    exact ⟨locale, named⟩
  · rintro ⟨locale, rfl⟩ choices ⟨⟩
    cases locale <;> decide

theorem checkChoice_adapter_iff {name : String} :
    checkChoice .adapter name = .ok () ↔ ∃ kind : TimeKind, kind.name = name := by
  rw [checkChoice_eq_ok_iff]
  constructor
  · intro among
    obtain ⟨kind, -, named⟩ := List.mem_map.mp (among _ rfl)
    exact ⟨kind, named⟩
  · rintro ⟨kind, rfl⟩ choices ⟨⟩
    cases kind <;> decide

theorem Arguments.Checked.store {option : CommandOption} {value : String} (checked : arguments.Checked)
    (valid : checkChoice option value = .ok ()) : (arguments.store option value).Checked := by
  cases option with
  | locale =>
    refine ⟨fun code member => ?_, checked.adapter⟩
    rcases List.mem_append.mp member with member | member
    · exact checked.locales code member
    · obtain rfl := List.mem_singleton.mp member
      exact checkChoice_locale_iff.mp valid
  | adapter =>
    refine ⟨checked.locales, ?_⟩
    rintro name ⟨⟩
    exact checkChoice_adapter_iff.mp valid
  | help | roundUp | range | timezone | logLevel => exact ⟨checked.locales, checked.adapter⟩

@[simp] theorem arguments_endRun : (progress.endRun run).arguments = progress.arguments := by
  rw [Progress.endRun]
  split
  · rfl
  · rw [Progress.takeRun]
    split <;> rfl

theorem finish_eq_ok_iff {request : Request} : progress.finish = .ok request ↔
    ∃ expressions, progress.expressions = some expressions ∧ progress.leftOver = [] ∧
      request = .evaluate { progress.arguments with expressions } := by
  rw [Progress.finish]
  cases progress.expressions with
  | none => simp
  | some expressions =>
    cases progress.leftOver with
    | nil => simp [eq_comm]
    | cons text rest => simp

theorem checkChoice_flag {option : CommandOption} (flag : option.isFlag = true) (value : String) :
    checkChoice option value = .ok () := by
  cases option <;> first | contradiction | rfl

theorem consume_flag {option : CommandOption} (flag : option.isFlag = true) (attached : Option Attached) :
    consume progress run (.option option attached :: items) = (do
      checkFlag option attached
      if option = .help then return .help
      consume ((progress.endRun run).store option "") [] items) :=
  (consume.eq_def ..).trans (if_pos flag)

theorem consume_value {option : CommandOption} (takesValue : ¬ option.isFlag = true) (value : String) :
    consume progress run (.option option none :: .plain value :: items) = (do
      checkChoice option value
      consume ((progress.endRun run).store option value) [] items) :=
  (consume.eq_def ..).trans (if_neg takesValue)

theorem consume_missing {option : CommandOption} (takesValue : ¬ option.isFlag = true)
    (missing : ∀ value rest, items = .plain value :: rest → False) :
    consume progress run (.option option none :: items) = .error (.missingValue option) := by
  refine (consume.eq_def ..).trans ((if_neg takesValue).trans ?_)
  split
  · contradiction
  · contradiction
  · next value rest _ => exact (missing value rest rfl).elim
  · rfl

/-- What holds of the arguments to begin with, and still holds after an option is stored, holds of them in the
end, unless help is asked for. `given` are the items that options may come from. -/
theorem consume_cases {request : Request} (given : List Item) (Holds : Arguments → Prop)
    (anyExpressions : ∀ arguments expressions, Holds arguments → Holds { arguments with expressions })
    (stored : ∀ option attached value arguments, .option option attached ∈ given →
      checkChoice option value = .ok () → Holds arguments → Holds (arguments.store option value))
    (within : ∀ item ∈ items, item ∈ given) (holds : Holds progress.arguments)
    (consumed : consume progress run items = .ok request) :
    (request = .help ∧ ∃ attached, .option .help attached ∈ given) ∨
      ∃ arguments, request = .evaluate arguments ∧ Holds arguments := by
  have kept {progress : Progress} {run : List Item} {option : CommandOption} {attached : Option Attached}
      {value : String} (member : .option option attached ∈ given) (holds : Holds progress.arguments)
      (valid : checkChoice option value = .ok ()) :
      Holds ((progress.endRun run).store option value).arguments := by
    rw [Progress.store, arguments_endRun]
    exact stored option attached value _ member valid holds
  -- a run of plain items changes the expressions alone, so only storing has to keep what holds
  fun_induction consume progress run items with
  | case1 progress run =>
    obtain ⟨expressions, -, -, rfl⟩ := finish_eq_ok_iff.mp consumed
    rw [arguments_endRun]
    exact .inr ⟨_, rfl, anyExpressions _ expressions holds⟩
  | case2 progress run text rest ended inductionHypothesis =>
    refine inductionHypothesis (fun item member => within item (.tail _ member)) ?_ consumed
    rwa [arguments_endRun]
  | case3 progress run option attached rest flag inductionHypothesis =>
    obtain ⟨-, -, others⟩ := bind_eq_ok_iff.mp consumed
    split at others
    case isTrue help =>
      subst help
      exact .inl ⟨(Except.ok.inj others).symm, attached, within _ (.head _)⟩
    case isFalse =>
      exact inductionHypothesis (fun item member => within item (.tail _ member))
        (kept (within _ (.head _)) holds (checkChoice_flag flag "")) others
  | case4 progress run option takesValue value rest inductionHypothesis
  | case5 progress run option takesValue value rest inductionHypothesis =>
    obtain ⟨⟨⟩, valid, others⟩ := bind_eq_ok_iff.mp consumed
    exact inductionHypothesis (fun item member => within item (.tail _ member))
      (kept (within _ (.head _)) holds valid) others
  | case6 progress run option takesValue value rest inductionHypothesis =>
    obtain ⟨⟨⟩, valid, others⟩ := bind_eq_ok_iff.mp consumed
    exact inductionHypothesis (fun item member => within item (.tail _ (.tail _ member)))
      (kept (within _ (.head _)) holds valid) others
  | case7 => contradiction
  | case8 progress run item rest _ _ inductionHypothesis =>
    exact inductionHypothesis (fun item member => within item (.tail _ member)) holds consumed

theorem checked_of_consume (consumed : consume progress run items = .ok (.evaluate arguments))
    (checked : progress.arguments.Checked) : arguments.Checked := by
  obtain ⟨⟨⟩, -⟩ | ⟨asked, same, checked⟩ := consume_cases items Arguments.Checked
    (fun _ _ checked => ⟨checked.locales, checked.adapter⟩)
    (fun _ _ _ _ _ valid checked => checked.store valid) (fun _ member => member) checked consumed
  cases same
  exact checked

/-! ## At least one expression -/

/-- Everything after a separator is plain, and before it nothing plain is spelled like one. -/
def Separated : List Item → Prop
  | [] => True
  | .separator :: rest => ∀ item ∈ rest, ∃ text, item = .plain text
  | .plain text :: rest => text ≠ "--" ∧ Separated rest
  | .option .. :: rest | .unknownOption _ :: rest => Separated rest

theorem option_of_mem_candidates {cs : List Char} {entry : String × Item}
    (member : entry ∈ if cs.tail.head? = some '-' then longCandidates cs else shortCandidates cs) :
    ∃ option attached, entry.2 = .option option attached := by
  split at member
  · obtain ⟨spelling, -, rfl⟩ := List.mem_map.mp member
    exact ⟨spelling.2, _, rfl⟩
  · obtain ⟨spelling, -, rfl⟩ := List.mem_map.mp member
    exact ⟨spelling.2, _, rfl⟩

theorem option_of_assignedOption? {cs : List Char} {item : Item} (assigned : assignedOption? cs = some item) :
    ∃ option attached, item = .option option attached := by
  simp only [assignedOption?, Option.bind_eq_bind, Option.bind_eq_some_iff] at assigned
  obtain ⟨_, -, option, -, same⟩ := assigned
  exact ⟨option, _, (Option.some.inj same).symm⟩

/-- An argument is plain, or an option, or an option that is not known. -/
theorem classify_cases {word : String} {item : Item} (classified : classify word = .ok item) :
    item = .plain word ∨ (∃ option attached, item = .option option attached) ∨
      item = .unknownOption word := by
  simp only [classify] at classified
  split at classified
  · exact .inl (Except.ok.inj classified).symm
  · split at classified
    · exact .inr (.inl ⟨_, _, (Except.ok.inj classified).symm⟩)
    · split at classified
      · exact .inl (Except.ok.inj classified).symm
      · split at classified
        case h_1 assigned =>
          obtain rfl := Except.ok.inj classified
          exact .inr (.inl (option_of_assignedOption? assigned))
        case h_2 =>
          rw [classifyShortened] at classified
          split at classified
          case h_1 name candidate candidates =>
            obtain rfl := Except.ok.inj classified
            exact .inr (.inl (option_of_mem_candidates (candidates ▸ List.mem_singleton_self _)))
          case h_2 =>
            split at classified
            · exact .inl (Except.ok.inj classified).symm
            · exact .inr (.inr (Except.ok.inj classified).symm)
          case h_3 => cases classified

theorem separated_of_classifyAll {words : List String} (classified : classifyAll words = .ok items) :
    Separated items := by
  induction words generalizing items with
  | nil =>
    obtain rfl := Except.ok.inj classified
    trivial
  | cons word rest inductionHypothesis =>
    rw [classifyAll] at classified
    split at classified
    case isTrue =>
      obtain rfl := Except.ok.inj classified
      intro item member
      obtain ⟨text, -, rfl⟩ := List.mem_map.mp member
      exact ⟨text, rfl⟩
    case isFalse unmarked =>
      obtain ⟨item, first, others⟩ := bind_eq_ok_iff.mp classified
      obtain ⟨others, classifiedRest, same⟩ := bind_eq_ok_iff.mp others
      obtain rfl := Except.ok.inj same
      have separated := inductionHypothesis classifiedRest
      obtain rfl | ⟨option, attached, rfl⟩ | rfl := classify_cases first
      · exact ⟨unmarked, separated⟩
      · exact separated
      · exact separated

theorem Separated.of_append (separated : Separated (run ++ items)) : Separated run := by
  induction run with
  | nil => trivial
  | cons item rest inductionHypothesis =>
    cases item with
    | plain text => exact ⟨separated.1, inductionHypothesis separated.2⟩
    | separator => exact fun item member => separated item (List.mem_append_left _ member)
    | option | unknownOption => exact inductionHypothesis separated

/-- Nothing but plain items comes after a separator, so there is none before an item that is not plain. -/
theorem Separated.after {item : Item} (separated : Separated (run ++ item :: items))
    (noText : item.text? = none) : Separated items := by
  induction run with
  | nil => cases item <;> first | contradiction | exact separated
  | cons head rest inductionHypothesis =>
    cases head with
    | plain text => exact inductionHypothesis separated.2
    | separator =>
      obtain ⟨text, rfl⟩ := separated item (by simp)
      cases noText
    | option | unknownOption => exact inductionHypothesis separated

/-- Expressions are taken without a `--`, which leaves one if there is an item that is not a separator. -/
theorem erase_texts_ne_nil (separated : Separated run) (texts : ∀ item ∈ run, item.text? ≠ none)
    (filled : run.any fun item => item ≠ .separator) : (run.filterMap Item.text?).erase "--" ≠ [] := by
  cases run with
  | nil => cases filled
  | cons item rest =>
    cases item with
    | plain text =>
      have first : (text == "--") = false := by simpa using separated.1
      simp [Item.text?, first]
    | separator =>
      -- the `--` that is erased stands for the separator itself, so the item after it is left
      cases rest with
      | nil => cases filled
      | cons other rest =>
        obtain ⟨text, rfl⟩ := separated other (.head _)
        simp [Item.text?]
    | option | unknownOption => exact absurd rfl (texts _ (.head _))

theorem expressions_endRun (separated : Separated run) (texts : ∀ item ∈ run, item.text? ≠ none)
    (filled : progress.expressions ≠ some []) : (progress.endRun run).expressions ≠ some [] := by
  rw [Progress.endRun]
  split
  · exact filled
  · rw [Progress.takeRun]
    split
    case isTrue taken => simpa using erase_texts_ne_nil separated texts taken.2
    case isFalse => exact filled

/-- What is evaluated is at least one expression. -/
theorem expressions_of_consume (consumed : consume progress run items = .ok (.evaluate arguments))
    (separated : Separated (run ++ items)) (texts : ∀ item ∈ run, item.text? ≠ none)
    (filled : progress.expressions ≠ some []) : arguments.expressions ≠ [] := by
  -- once a run has been taken there are expressions, and what is not taken yet stays separated
  fun_induction consume progress run items with
  | case1 progress run =>
    obtain ⟨expressions, found, -, asked⟩ := finish_eq_ok_iff.mp consumed
    obtain rfl := Request.evaluate.inj asked
    rintro (rfl : expressions = [])
    exact expressions_endRun separated.of_append texts filled found
  | case2 progress run text rest ended inductionHypothesis =>
    exact inductionHypothesis consumed (separated.after rfl) nofun
      (expressions_endRun separated.of_append texts filled)
  | case3 progress run option attached rest flag inductionHypothesis =>
    obtain ⟨-, -, others⟩ := bind_eq_ok_iff.mp consumed
    split at others
    · cases others
    · exact inductionHypothesis others (separated.after rfl) nofun
        (expressions_endRun separated.of_append texts filled)
  | case4 progress run option takesValue value rest inductionHypothesis
  | case5 progress run option takesValue value rest inductionHypothesis =>
    obtain ⟨⟨⟩, -, others⟩ := bind_eq_ok_iff.mp consumed
    exact inductionHypothesis others (separated.after rfl) nofun
      (expressions_endRun separated.of_append texts filled)
  | case6 progress run option takesValue value rest inductionHypothesis =>
    obtain ⟨⟨⟩, -, others⟩ := bind_eq_ok_iff.mp consumed
    exact inductionHypothesis others (separated.after rfl).2 nofun
      (expressions_endRun separated.of_append texts filled)
  | case7 => contradiction
  | case8 progress run item rest notUnknown notOption inductionHypothesis =>
    refine inductionHypothesis consumed (by simpa using separated) (fun other member => ?_) filled
    obtain member | member := List.mem_append.mp member
    · exact texts other member
    · obtain rfl := List.mem_singleton.mp member
      cases other with
      | plain | separator => exact nofun
      | option option attached => exact (notOption option attached rfl).elim
      | unknownOption text => exact (notUnknown text rfl).elim

theorem expressions_of_request {words : List String}
    (asked : Request.ofArguments words = .ok (.evaluate arguments)) : arguments.expressions ≠ [] := by
  obtain ⟨items, told, consumed⟩ := bind_eq_ok_iff.mp asked
  exact expressions_of_consume consumed (separated_of_classifyAll told) nofun nofun

/-! ## Values to start with -/

/-- The arguments with the values of others where they leave one open, and their locales in front. -/
def Arguments.over (arguments base : Arguments) : Arguments where
  expressions := arguments.expressions
  roundUp := base.roundUp || arguments.roundUp
  range := base.range || arguments.range
  timezone := arguments.timezone.or base.timezone
  locales := base.locales ++ arguments.locales
  adapter := arguments.adapter.or base.adapter
  logLevel := arguments.logLevel.or base.logLevel

def Progress.over (progress : Progress) (base : Arguments) : Progress :=
  { progress with arguments := progress.arguments.over base }

def Request.over (base : Arguments) : Request → Request
  | .help => .help
  | .evaluate arguments => .evaluate (arguments.over base)

theorem store_over (option : CommandOption) (value : String) :
    (progress.over base).store option value = (progress.store option value).over base := by
  cases option <;>
    simp [Progress.over, Progress.store, Arguments.over, Arguments.store, List.append_assoc]

theorem endRun_over : (progress.over base).endRun run = (progress.endRun run).over base := by
  obtain ⟨expressions, arguments, leftOver⟩ := progress
  by_cases nothing : run.isEmpty
  · simp only [Progress.endRun, nothing, if_true]
  · by_cases first : expressions.isNone ∧ run.any fun item => item ≠ .separator
    · simp only [Progress.endRun, nothing, Progress.takeRun, Progress.over, first]
      rfl
    · simp only [Progress.endRun, nothing, Progress.takeRun, Progress.over, first]
      rfl

theorem finish_over : (progress.over base).finish = progress.finish.map (Request.over base) := by
  rw [Progress.finish, Progress.finish, Progress.over]
  cases progress.expressions with
  | none => rfl
  | some expressions => cases progress.leftOver <;> rfl

theorem map_bind_unit {ε α β : Type} {f : α → β} {check : Except ε Unit} {next : Except ε α} :
    (check >>= fun _ => next).map f = check >>= fun _ => next.map f := by
  cases check <;> rfl

/-- Consuming from a start with stored values comes to what it comes to without them, filled up. -/
theorem consume_over (base : Arguments) (progress : Progress) (run items : List Item) :
    consume (progress.over base) run items = (consume progress run items).map (Request.over base) := by
  fun_induction consume progress run items with
  | case1 progress run => rw [consume, endRun_over, finish_over]
  | case2 progress run text rest ended inductionHypothesis =>
    rw [consume, ← inductionHypothesis, endRun_over]
    rfl
  | case3 progress run option attached rest flag inductionHypothesis =>
    rw [consume_flag flag, map_bind_unit, endRun_over, store_over, inductionHypothesis]
    split <;> rfl
  | case4 progress run option takesValue value rest inductionHypothesis
  | case5 progress run option takesValue value rest inductionHypothesis
  | case6 progress run option takesValue value rest inductionHypothesis =>
    rw [consume, if_neg takesValue, map_bind_unit, endRun_over, store_over, inductionHypothesis]
  | case7 progress run option rest takesValue missing =>
    rw [consume_missing takesValue missing]
    rfl
  | case8 progress run item rest notUnknown notOption inductionHypothesis =>
    rw [consume, inductionHypothesis]
    all_goals assumption

end CommandLine

end RelativeTime
