import RelativeTime.Proofs.Moment.CalendarAddition
import RelativeTime.Proofs.Moment.ClockAddition
import RelativeTime.Proofs.Parser.Range

/-!
# Offsets of zero

An offset of zero adds nothing, whichever sign it has, and nothing comes of it where the clock shows a
wall time for the first time or the unit measures elapsed time. A calendar unit starts from the wall
time alone, however, and a second showing is read back as the first. So an expression with an offset of
zero has the value of its keyword, except for that, and then it has the same wall time.
-/

namespace RelativeTime

open Expression (Form Resolved ResolvedOffset Tokens)

namespace Moment

variable {zone : Zone} {unit : TimeUnit} {v w : Moment} {u : Int}

/-- A calendar unit is not added to a second showing. -/
def KeepsShowing (unit : TimeUnit) (v : Moment) : Prop :=
  ∀ period, unit = .calendar period → v.secondPass = false

theorem add_zero_eq_ok (spaced : zone.Spaced) (shown : ofInstant? zone u = .ok v)
    (keeps : KeepsShowing unit v) : add unit v 0 = .ok v := by
  cases unit with
  | clock unit => exact clockAdd_zero spaced shown
  | calendar unit =>
    obtain ⟨-, wallInRange, rfl⟩ := ofInstant?_eq_ok_iff.mp shown
    rw [calendarAdd_zero rfl wallInRange, (firstInstant_wall_eq_iff spaced).mpr (keeps unit rfl)]
    exact shown

/-- An offset of zero keeps the wall time, and goes back to its first showing if the unit is a calendar
unit. -/
theorem of_add_zero (spaced : zone.Spaced) (added : add unit (ofInstant zone u) 0 = .ok w) :
    w.wall = (ofInstant zone u).wall ∧ w.instant ≤ u ∧
      (w.instant = u ↔ KeepsShowing unit (ofInstant zone u)) := by
  cases unit with
  | clock unit =>
    have same := eq_of_clockAdd rfl added
    rw [instant_ofInstant spaced, Int.zero_mul, Int.add_zero] at same
    subst same
    rw [instant_ofInstant spaced]
    exact ⟨rfl, Int.le_refl u, iff_of_true rfl nofun⟩
  | calendar unit =>
    have first := eq_of_calendarAdd rfl added
    rw [CalendarUnit.shift_zero, onDay_day] at first
    subst first
    rw [instant_ofInstant spaced, firstInstant_wall_eq_iff spaced]
    refine ⟨(isLeast_firstInstant spaced ⟨u, rfl⟩).1, firstInstant_wall_le spaced u, ?_⟩
    exact ⟨fun first _ _ => first, fun keeps => keeps unit rfl⟩

end Moment

/-! ## Expressions -/

section

variable {υ τ ζ ε : Type} {adapter : Adapter υ τ ζ ε} {direction : Direction} {unit : υ}

theorem result_evaluate_clock (adapter : Adapter υ τ ζ ε) (context : Context ζ) :
    ((⟨none, none⟩ : Resolved υ).evaluate adapter direction context).result =
      adapter.clock context := by
  rw [Resolved.result_evaluate]
  cases adapter.clock context <;> rfl

theorem result_evaluate_add {time : τ} {context : Context ζ} (amount : Int)
    (shown : adapter.clock context = .ok time) :
    ((⟨none, some ⟨amount, unit, none⟩⟩ : Resolved υ).evaluate adapter direction context).result =
      adapter.add unit time amount context := by
  rw [Resolved.result_evaluate, shown]
  change adapter.add unit time amount context >>= _ = _
  cases adapter.add unit time amount context <;> rfl

end

namespace Parser

section

variable {υ ζ ε : Type} [Text.Alphabet] {parser : Parser υ ζ} {keyword name sign : String}
  {unit : υ}

/-- A keyword on its own is the time of the clock. -/
theorem resolve_keyword (isKeyword : keyword ∈ parser.config.keywords)
    (isWord : Text.IsWord keyword.toList) :
    parser.resolve keyword = (.ok ⟨none, none⟩ : Except (Failure ε) _) := by
  have derives : (⟨keyword.toList, none, none⟩ : Form).Derives keyword :=
    ⟨⟨isWord, nofun, nofun⟩, by simp [Form.text, Expression.roundingText]⟩
  have tokens : (⟨keyword.toList, none, none⟩ : Form).tokens = ⟨keyword, none, none⟩ := by
    simp [Form.tokens]
  rw [resolve_of_read (Expression.read_of_convertible derives (Nat.zero_le _)), tokens,
    Tokens.resolve, if_pos (by simpa using isKeyword)]
  rfl

/-- Zero is the same amount with either sign. -/
theorem resolve_zero_offset (isKeyword : keyword ∈ parser.config.keywords)
    (isWord : Text.IsWord keyword.toList) (bound : parser.config.units.find? name = some unit)
    (nameIsWord : Text.IsWord name.toList) (isSign : sign ∈ ["+", "-"]) :
    parser.resolve (keyword ++ sign ++ "0" ++ name) =
      (.ok ⟨none, some ⟨0, unit, none⟩⟩ : Except (Failure ε) _) := by
  obtain ⟨isNegative, signed⟩ : ∃ isNegative : Bool, sign = if isNegative then "-" else "+" := by
    simp only [List.mem_cons, List.not_mem_nil, or_false] at isSign
    rcases isSign with rfl | rfl
    · exact ⟨false, rfl⟩
    · exact ⟨true, rfl⟩
  have derives : (⟨keyword.toList, none, some ⟨isNegative, ['0'], name.toList, none⟩⟩ : Form).Derives
      (keyword ++ sign ++ "0" ++ name) := by
    refine ⟨⟨isWord, nofun, ?_⟩, ?_⟩
    · rintro _ ⟨⟩
      exact ⟨(by decide : Expression.IsDigits ['0']), nameIsWord, nofun⟩
    · cases isNegative <;>
        simp [Form.text, Expression.OffsetForm.text, Expression.OffsetForm.sign,
          Expression.roundingText, signed]
  have tokens : (⟨keyword.toList, none, some ⟨isNegative, ['0'], name.toList, none⟩⟩ : Form).tokens =
      ⟨keyword, none, some ⟨0, name, none⟩⟩ := by
    have zero : Expression.OffsetForm.amount ⟨isNegative, ['0'], name.toList, none⟩ = 0 := by
      cases isNegative <;> rfl
    simp [Form.tokens, Expression.OffsetForm.tokens, zero]
  have fewDigits : 1 ≤ Expression.digitLimit := by decide
  rw [resolve_of_read (Expression.read_of_convertible derives fewDigits), tokens, Tokens.resolve,
    if_pos (by simpa using isKeyword)]
  simp only [Expression.OffsetTokens.resolve, Expression.resolveName, bound]
  rfl

end

/-- An offset of zero keeps the wall time, and it keeps the instant exactly if a calendar unit is not
added to a second showing. So it is with expressions: after a keyword an offset of zero, with either
sign, succeeds with the value of the keyword where that is kept, and whatever else it returns is the
same wall time at an earlier instant. -/
theorem zero_offset_keeps_first_showings [Text.Alphabet] [ZoneDatabase] {zone : Zone} (spaced : zone.Spaced)
    (unit : TimeUnit) :
    (∀ u w, Moment.add unit (.ofInstant zone u) 0 = .ok w →
      w.wall = (Moment.ofInstant zone u).wall ∧ w.instant ≤ u ∧
        (w.instant = u ↔ Moment.KeepsShowing unit (.ofInstant zone u))) ∧
    (∀ (parser : Parser TimeUnit ZoneRef) (now : Instant) (timezone : Option ZoneRef)
      (direction : Direction) (keyword name : String) (v : Moment),
      (parser.context timezone).timezone.zone = .ok zone →
      keyword ∈ parser.config.keywords → Text.IsWord keyword.toList →
      parser.config.units.find? name = some unit → Text.IsWord name.toList →
      (parser.parse (Moment.adapter now) keyword direction timezone).result = .ok v →
      ∀ sign ∈ ["+", "-"],
        (Moment.KeepsShowing unit v →
          (parser.parse (Moment.adapter now) (keyword ++ sign ++ "0" ++ name) direction
            timezone).result = .ok v) ∧
        ∀ w, (parser.parse (Moment.adapter now) (keyword ++ sign ++ "0" ++ name) direction
            timezone).result = .ok w →
          w.wall = v.wall ∧ w.instant ≤ v.instant ∧
            (w.instant = v.instant ↔ Moment.KeepsShowing unit v)) := by
  refine ⟨fun u w added => Moment.of_add_zero spaced added, ?_⟩
  intro parser now timezone direction keyword name v known isKeyword isWord bound nameIsWord parsed
    sign isSign
  -- the keyword is what the clock shows, and the offset is added to that
  rw [result_parse_of_resolves (resolve_keyword isKeyword isWord), result_evaluate_clock] at parsed
  have clock := eq_of_mapError_eq_ok parsed
  rw [result_parse_of_resolves (resolve_zero_offset isKeyword isWord bound nameIsWord isSign),
    result_evaluate_add 0 clock]
  obtain ⟨zone', found, shown⟩ := bind_eq_ok_iff.mp clock
  obtain rfl := Except.ok.inj (known.symm.trans (eq_of_mapError_eq_ok found))
  have shown := eq_of_mapError_eq_ok shown
  refine ⟨fun keeps => ?_, fun w added => ?_⟩
  · have kept := Moment.add_zero_eq_ok spaced shown keeps
    change ((Moment.add unit v 0).mapError AdapterError.time).mapError Failure.adapter = _
    rw [kept]
    rfl
  · have added : Moment.add unit v 0 = .ok w :=
      eq_of_mapError_eq_ok (eq_of_mapError_eq_ok added)
    obtain rfl := Moment.eq_of_ofInstant? shown
    rw [Moment.instant_ofInstant spaced]
    exact Moment.of_add_zero spaced added

/-- At the first showing of 02:30 on October 27th no days before now is now. -/
theorem no_days_after_first_showing :
    Moment.hourChanges.Spaced ∧
      (hourChangesParser.parse (adapterAt 1729989000) "now" .down none).result =
        .ok (shownAt 1729989000000000) ∧
      (shownAt 1729989000000000).secondPass = false ∧
      (hourChangesParser.parse (adapterAt 1729989000) "now-0d" .down none).result =
        .ok (shownAt 1729989000000000) := by
  have plain : (hourChangesParser.parse (adapterAt 1729989000) "now" .down none).result =
      .ok (shownAt 1729989000000000) := rfl
  have first : (shownAt 1729989000000000).secondPass = false := by decide
  obtain ⟨-, expressions⟩ :=
    zero_offset_keeps_first_showings Moment.spaced_hourChanges (.calendar .day)
  have text : "now" ++ "-" ++ "0" ++ "d" = "now-0d" := by decide
  obtain ⟨kept, -⟩ := expressions hourChangesParser _ none .down "now" "d" _ rfl (by decide)
    (by decide) rfl (by decide) plain "-" (by decide)
  rw [text] at kept
  exact ⟨Moment.spaced_hourChanges, plain, first, kept fun _ _ => first⟩

/-- An hour later 02:30 is shown for the second time, and no days after that is the first showing
again. -/
theorem no_days_after_second_showing :
    (hourChangesParser.parse (adapterAt 1729992600) "now" .down none).result =
        .ok (shownAt 1729992600000000) ∧
      (hourChangesParser.parse (adapterAt 1729992600) "now+0d" .down none).result =
        .ok (shownAt 1729989000000000) ∧
      (hourChangesParser.parse (adapterAt 1729992600) "now-0d" .down none).result =
        .ok (shownAt 1729989000000000) ∧
      (hourChangesParser.parse (adapterAt 1729992600) "now+0h" .down none).result =
        .ok (shownAt 1729992600000000) ∧
      (shownAt 1729989000000000).instant < (shownAt 1729992600000000).instant := by
  -- with the amount as a number the rest is computed
  have after : hourChangesParser.resolve "now+0d" =
      (.ok ⟨none, some ⟨0, .calendar .day, none⟩⟩ : Except (Failure AdapterError) _) := rfl
  have before : hourChangesParser.resolve "now-0d" =
      (.ok ⟨none, some ⟨0, .calendar .day, none⟩⟩ : Except (Failure AdapterError) _) := rfl
  have elapsed : hourChangesParser.resolve "now+0h" =
      (.ok ⟨none, some ⟨0, .clock .hour, none⟩⟩ : Except (Failure AdapterError) _) := rfl
  rw [result_parse_of_resolves after, result_parse_of_resolves before,
    result_parse_of_resolves elapsed]
  exact ⟨rfl, rfl, rfl, rfl, by decide⟩

end Parser

end RelativeTime
