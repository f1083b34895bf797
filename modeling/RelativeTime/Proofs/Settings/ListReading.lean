import Mathlib.Data.List.TakeWhile
import Mathlib.Data.String.Basic
import RelativeTime.Proofs.Settings.Valid

/-!
# Reading lists of locales

A list can be written in many ways: with blanks around its words and with blank pieces between its commas.
`Settings.Lists` says which words a text lists, without any cutting or trimming, and every text lists the
words that are found in it by cutting and trimming and no others (`Settings.lists_iff`). So a value is
accepted for its words alone, and what is stored is one way to write them.
-/

namespace RelativeTime

/-! ## Trimming -/

namespace Text

variable {before word after cs : List Char}

/-- Blanks and nothing else. -/
def AllBlank (cs : List Char) : Prop :=
  ∀ c ∈ cs, isBlank c = true

/-- There is no blank at either end. -/
structure Trimmed (cs : List Char) : Prop where
  first : ∀ c ∈ cs.head?, isBlank c = false
  last : ∀ c ∈ cs.getLast?, isBlank c = false

theorem trimLeft_append (blank : AllBlank before) (cs : List Char) :
    trimLeft (before ++ cs) = trimLeft cs :=
  List.dropWhile_append_of_pos blank

theorem trimLeft_eq_self (first : ∀ c ∈ cs.head?, isBlank c = false) : trimLeft cs = cs := by
  cases cs with
  | nil => rfl
  | cons c cs => exact List.dropWhile_cons_of_neg (by simp [first c rfl])

theorem trimRight_append (blank : AllBlank after) (cs : List Char) :
    trimRight (cs ++ after) = trimRight cs := by
  have blank' : AllBlank after.reverse := fun c member => blank c (List.mem_reverse.mp member)
  rw [trimRight, List.reverse_append, trimLeft_append blank', trimRight]

theorem trimRight_eq_self (last : ∀ c ∈ cs.getLast?, isBlank c = false) : trimRight cs = cs := by
  rw [trimRight, trimLeft_eq_self (by simpa using last), List.reverse_reverse]

theorem trim_of_allBlank (blank : AllBlank cs) : trim cs = [] := by
  have nothing := trimLeft_append blank []
  rw [List.append_nil] at nothing
  rw [trim, nothing]
  rfl

theorem trim_append (blank : AllBlank before) (blank' : AllBlank after) (trimmed : Trimmed word)
    (filled : word ≠ []) : trim (before ++ word ++ after) = word := by
  obtain ⟨c, rest, rfl⟩ := List.exists_cons_of_ne_nil filled
  have begins : trimLeft (c :: rest ++ after) = c :: rest ++ after := trimLeft_eq_self trimmed.first
  rw [trim, List.append_assoc, trimLeft_append blank, begins, trimRight_append blank',
    trimRight_eq_self trimmed.last]

theorem first_trimLeft (cs : List Char) : ∀ c ∈ (trimLeft cs).head?, isBlank c = false := by
  intro c first
  have notBlank := List.head?_dropWhile_not isBlank cs
  rwa [show (cs.dropWhile isBlank).head? = some c from first] at notBlank

theorem exists_append_trimLeft (cs : List Char) : ∃ before, AllBlank before ∧ cs = before ++ trimLeft cs :=
  ⟨cs.takeWhile isBlank, fun _ => List.mem_takeWhile_imp, List.takeWhile_append_dropWhile.symm⟩

theorem exists_trimRight_append (cs : List Char) : ∃ after, AllBlank after ∧ cs = trimRight cs ++ after := by
  obtain ⟨before, blank, split⟩ := exists_append_trimLeft cs.reverse
  refine ⟨before.reverse, fun c member => blank c (List.mem_reverse.mp member), ?_⟩
  rw [trimRight, ← List.reverse_append, ← split, List.reverse_reverse]

/-- Whatever is trimmed has lost its blanks at both ends and nothing else. -/
theorem exists_append_trim (cs : List Char) : Trimmed (trim cs) ∧
    ∃ before after, AllBlank before ∧ AllBlank after ∧ cs = before ++ trim cs ++ after := by
  obtain ⟨before, blankBefore, left⟩ := exists_append_trimLeft cs
  obtain ⟨after, blankAfter, right⟩ := exists_trimRight_append (trimLeft cs)
  refine ⟨⟨fun c first => ?_, fun c last => ?_⟩, before, after, blankBefore, blankAfter, ?_⟩
  · -- what is first now was first before the end was trimmed
    apply first_trimLeft cs
    rw [right, List.head?_append, ← trim, first]
    rfl
  · rw [trim, trimRight, List.getLast?_reverse] at last
    exact first_trimLeft _ c last
  · rw [List.append_assoc, trim, ← right]
    exact left

end Text

namespace Settings

variable {piece cs : List Char} {words codes : List String} {value : String}

/-! ## What a text lists -/

/-- The piece holds one word among blanks, or nothing but blanks. -/
inductive Holds : List Char → List String → Prop where
  | blank {piece : List Char} (blank : Text.AllBlank piece) : Holds piece []
  | word {before after : List Char} {word : String} (before_blank : Text.AllBlank before)
      (after_blank : Text.AllBlank after) (filled : word ≠ "") (comma_free : ',' ∉ word.toList)
      (trimmed : Text.Trimmed word.toList) : Holds (before ++ word.toList ++ after) [word]

/-- The text is made of pieces with commas between them, and these are the words they hold. -/
inductive Lists : List Char → List String → Prop where
  | last {piece : List Char} {words : List String} (holds : Holds piece words) : Lists piece words
  | more {piece rest : List Char} {words others : List String} (holds : Holds piece words)
      (lists : Lists rest others) : Lists (piece ++ ',' :: rest) (words ++ others)

/-- The words that are left of pieces when they are trimmed. -/
def wordsOf (pieces : List (List Char)) : List String :=
  ((pieces.map Text.trim).filter (· ≠ [])).map String.ofList

theorem wordsOf_cons (piece : List Char) (rest : List (List Char)) :
    wordsOf (piece :: rest) = wordsOf [piece] ++ wordsOf rest := by
  rw [wordsOf, wordsOf, wordsOf, ← List.map_append, ← List.filter_append, ← List.map_append,
    List.singleton_append]

theorem wordsOf_of_trim_eq_nil (empty : Text.trim piece = []) : wordsOf [piece] = [] := by
  simp [wordsOf, empty]

theorem wordsOf_of_trim_ne_nil (filled : Text.trim piece ≠ []) :
    wordsOf [piece] = [String.ofList (Text.trim piece)] := by
  simp [wordsOf, filled]

theorem comma_not_mem_of_allBlank (blank : Text.AllBlank cs) : ',' ∉ cs := by
  intro member
  exact absurd (blank ',' member) (by decide)

theorem Holds.comma_free (holds : Holds piece words) : ',' ∉ piece := by
  cases holds with
  | blank blank => exact comma_not_mem_of_allBlank blank
  | word before_blank after_blank filled comma_free trimmed =>
    simp only [List.mem_append, not_or]
    exact ⟨⟨comma_not_mem_of_allBlank before_blank, comma_free⟩, comma_not_mem_of_allBlank after_blank⟩

theorem Holds.eq_wordsOf (holds : Holds piece words) : words = wordsOf [piece] := by
  cases holds with
  | blank blank => exact (wordsOf_of_trim_eq_nil (Text.trim_of_allBlank blank)).symm
  | @word before after word before_blank after_blank filled comma_free trimmed =>
    have filled' : word.toList ≠ [] := mt String.toList_eq_nil_iff.mp filled
    have found := Text.trim_append before_blank after_blank trimmed filled'
    rw [wordsOf_of_trim_ne_nil (by rwa [found]), found, String.ofList_toList]

theorem holds_wordsOf (comma_free : ',' ∉ piece) : Holds piece (wordsOf [piece]) := by
  obtain ⟨trimmed, before, after, before_blank, after_blank, split⟩ := Text.exists_append_trim piece
  by_cases empty : Text.trim piece = []
  case pos =>
    -- what is trimmed away on either side is the whole piece
    rw [wordsOf_of_trim_eq_nil empty]
    rw [empty, List.append_nil] at split
    refine .blank fun c member => ?_
    rw [split] at member
    exact (List.mem_append.mp member).elim (before_blank c) (after_blank c)
  case neg =>
    obtain ⟨word, word_eq⟩ : ∃ word, word = String.ofList (Text.trim piece) := ⟨_, rfl⟩
    have letters : word.toList = Text.trim piece := by rw [word_eq, String.toList_ofList]
    rw [wordsOf_of_trim_ne_nil empty, ← word_eq]
    rw [← letters] at trimmed split empty
    rw [split] at comma_free ⊢
    simp only [List.mem_append, not_or] at comma_free
    exact .word before_blank after_blank (mt String.toList_eq_nil_iff.mpr empty) comma_free.1.2 trimmed

theorem Lists.eq_wordsOf (lists : Lists cs words) : words = wordsOf (cs.splitOn ',') := by
  induction lists with
  | last holds => rw [List.splitOn_eq_singleton holds.comma_free, ← holds.eq_wordsOf]
  | more holds lists inductionHypothesis =>
    rw [List.splitOn_append_cons_self_of_not_mem holds.comma_free, wordsOf_cons, ← holds.eq_wordsOf,
      ← inductionHypothesis]

/-- By recursion on the text: what follows its first comma is shorter. -/
theorem lists_wordsOf (cs : List Char) : Lists cs (wordsOf (cs.splitOn ',')) := by
  by_cases comma : ',' ∈ cs
  case pos =>
    obtain ⟨piece, rest, split, comma_free⟩ := List.eq_append_cons_of_mem comma
    rw [split, List.splitOn_append_cons_self_of_not_mem comma_free, wordsOf_cons]
    exact .more (holds_wordsOf comma_free) (lists_wordsOf rest)
  case neg =>
    rw [List.splitOn_eq_singleton comma]
    exact .last (holds_wordsOf comma)
termination_by cs.length
decreasing_by
  rw [split, List.length_append, List.length_cons]
  omega

/-- A text lists its elements and no other words. -/
theorem lists_iff : Lists value.toList words ↔ words = elements value := by
  constructor
  · exact Lists.eq_wordsOf
  · rintro rfl
    exact lists_wordsOf value.toList

/-! ## Words that are refused -/

theorem nodup_eraseDups (codes : List String) : codes.eraseDups.Nodup := by
  cases codes with
  | nil => exact List.nodup_nil
  | cons code rest =>
    rw [List.eraseDups_cons, List.nodup_cons]
    refine ⟨fun again => ?_, nodup_eraseDups _⟩
    rw [List.mem_eraseDups, List.mem_filter] at again
    simp at again
termination_by codes.length
decreasing_by exact Nat.lt_succ_of_le (List.length_filter_le _ _)

/-- Words that are refused are reported in order and each once. -/
theorem pairwise_unsupported (codes : List String) : (unsupported codes).Pairwise (· < ·) := by
  -- sorting only gives an order that is not strict, and the words being distinct makes it strict
  have ordered : (unsupported codes).Pairwise fun code other => decide (code ≤ other) = true := by
    refine List.pairwise_mergeSort (fun code other another below above => ?_) (fun code other => ?_) _
    · exact decide_eq_true ((of_decide_eq_true below).trans (of_decide_eq_true above))
    · rw [← Bool.decide_or]
      exact decide_eq_true (le_total code other)
  have distinct : (unsupported codes).Nodup :=
    (List.mergeSort_perm _ _).nodup_iff.mpr (nodup_eraseDups _)
  exact (ordered.and distinct).imp fun ⟨below, ne⟩ => lt_of_le_of_ne (of_decide_eq_true below) ne

theorem checkLocales_eq_error_iff {error : SettingError} : checkLocales value = .error error ↔
    unsupported (elements value) ≠ [] ∧ error = ⟨.unsupportedLocales (unsupported (elements value)), value⟩ := by
  rw [checkLocales]
  split
  case h_1 none =>
    constructor
    · intro accepted
      cases accepted
    · intro refused
      exact absurd none refused.1
  case h_2 some =>
    constructor
    · intro refused
      cases refused
      exact ⟨some, rfl⟩
    · rintro ⟨-, rfl⟩
      rfl

/-- Words that are refused are among the errors of loading, unless the look-up of the zone ends half-way. -/
theorem load_of_checkLocales_error [ZoneDatabase] {error : SettingError}
    {environment : List (String × String)} {dotenv : Option String}
    (refused : checkLocales (valueIn environment dotenv .locales) = .error error) :
    (∃ errors, load environment dotenv = .error (.invalid errors) ∧ error ∈ errors) ∨
      ∃ broken, Zone.brokenLookup? (valueIn environment dotenv .timezone) = some broken ∧
        load environment dotenv = .error (.timezone broken) := by
  rw [load]
  cases Zone.brokenLookup? (valueIn environment dotenv .timezone) with
  | some broken => exact .inr ⟨broken, rfl, rfl⟩
  | none =>
    simp only
    split
    case h_1 accepted _ => cases refused.symm.trans accepted
    case h_2 => exact .inl ⟨_, rfl, by simp [refused, errorsOf]⟩

/-! ## Values and their lists -/

/-- A value is accepted exactly if the words it lists are codes of locales. Settings with the stored text
have these words as their codes, in order and as often as given, and the stored text is accepted as it is.
Otherwise the words that are no codes are reported in order and each once. -/
theorem locale_list_codec [ZoneDatabase] (value : String) :
    (∀ words, Lists value.toList words ↔ words = elements value) ∧
    ((∃ stored, checkLocales value = .ok stored) ↔
      ∀ word ∈ elements value, ∃ locale : Locale, locale.code = word) ∧
    (∀ stored, checkLocales value = .ok stored →
      storedCodes stored = elements value ∧ checkLocales stored = .ok stored) ∧
    (∀ codes : List String, (∀ code ∈ codes, ∃ locale : Locale, locale.code = code) →
      Lists value.toList codes → ∃ stored, checkLocales value = .ok stored ∧ storedCodes stored = codes) ∧
    (∀ error, checkLocales value = .error error → ∃ codes,
      error = ⟨.unsupportedLocales codes, value⟩ ∧
      error.message = "Value error, unsupported locales: " ++ ", ".intercalate codes ∧
      codes.Pairwise (· < ·) ∧
      ∀ code, code ∈ codes ↔ code ∈ elements value ∧ ∀ locale : Locale, locale.code ≠ code) ∧
    ∀ environment dotenv, valueIn environment dotenv .locales = value →
      (∀ settings, load environment dotenv = .ok settings → settings.localeCodes = elements value) ∧
      ∀ error, checkLocales value = .error error →
        (∃ errors, load environment dotenv = .error (.invalid errors) ∧ error ∈ errors) ∨
          ∃ broken, Zone.brokenLookup? (valueIn environment dotenv .timezone) = some broken ∧
            load environment dotenv = .error (.timezone broken) := by
  have stores : ∀ stored, checkLocales value = .ok stored →
      storedCodes stored = elements value ∧ checkLocales stored = .ok stored := by
    intro stored checked
    obtain ⟨known, rfl⟩ := checkLocales_eq_ok_iff.mp checked
    exact ⟨storedCodes_joined known, checkLocales_joined known⟩
  have accepted : (∃ stored, checkLocales value = .ok stored) ↔
      ∀ word ∈ elements value, ∃ locale : Locale, locale.code = word :=
    ⟨fun ⟨_, checked⟩ => (checkLocales_eq_ok_iff.mp checked).1,
      fun known => ⟨_, checkLocales_eq_ok_iff.mpr ⟨known, rfl⟩⟩⟩
  refine ⟨fun words => lists_iff, accepted, stores, ?written, ?refused, ?loaded⟩
  case written =>
    intro codes known lists
    obtain rfl := lists_iff.mp lists
    obtain ⟨stored, checked⟩ := accepted.mpr known
    exact ⟨stored, checked, (stores stored checked).1⟩
  case refused =>
    intro error checked
    obtain ⟨-, rfl⟩ := checkLocales_eq_error_iff.mp checked
    exact ⟨_, rfl, rfl, pairwise_unsupported _, fun code => mem_unsupported⟩
  case loaded =>
    rintro environment dotenv rfl
    refine ⟨fun settings loaded => ?_, fun error => load_of_checkLocales_error⟩
    obtain ⟨-, checked, -, -⟩ := load_eq_ok_iff.mp loaded
    exact (stores settings.locales checked).1

example : checkLocales " de, ru ,, de" = .ok "de,ru,de" ∧
    checkLocales "xx,de, DE,xx" =
      .error ⟨.unsupportedLocales ["DE", "xx"], "xx,de, DE,xx"⟩ := by
  cbv

end Settings

end RelativeTime
