import RelativeTime.Proofs.Locale.AnyOrder
import RelativeTime.Settings

/-!
# Lists of locales in the settings

A value is accepted exactly if its elements are codes of locales. There is no comma and no blank in such a
code, so a list of codes is read back from the text that joins them, as elements of a value
(`elements_joined`) and as stored codes (`storedCodes_joined`).
-/

namespace RelativeTime

theorem Locale.code_clean (locale : Locale) :
    locale.code.toList ≠ [] ∧ ',' ∉ locale.code.toList ∧
      Text.trim locale.code.toList = locale.code.toList := by
  cases locale <;> decide

namespace Settings

variable {codes : List String} {value stored : String}

/-! ## Checking a value -/

theorem mem_unsupported {code : String} :
    code ∈ unsupported codes ↔ code ∈ codes ∧ ∀ locale : Locale, locale.code ≠ code := by
  rw [unsupported, List.mem_mergeSort, List.mem_eraseDups, List.mem_filter, Option.isNone_iff_eq_none,
    Option.eq_none_iff_forall_ne_some]
  simp only [ne_eq, Locale.ofCode?_eq_some_iff]

theorem unsupported_eq_nil_iff :
    unsupported codes = [] ↔ ∀ code ∈ codes, ∃ locale : Locale, locale.code = code := by
  simp only [List.eq_nil_iff_forall_not_mem, mem_unsupported, not_and, Classical.not_forall, ne_eq,
    Classical.not_not]

theorem checkLocales_eq_ok_iff : checkLocales value = .ok stored ↔
    (∀ code ∈ elements value, ∃ locale : Locale, locale.code = code) ∧
      stored = joined (elements value) := by
  rw [← unsupported_eq_nil_iff, checkLocales]
  split
  case h_1 none => simp only [none, Except.ok.injEq, true_and, eq_comm]
  case h_2 some => exact iff_of_false nofun fun accepted => some accepted.1

/-! ## Joined codes -/

theorem pieces_joined (given : codes ≠ []) (known : ∀ code ∈ codes, ∃ locale : Locale, locale.code = code) :
    pieces (joined codes) = codes.map String.toList := by
  rw [pieces, joined, String.toList_intercalate]
  refine List.splitOn_intercalate ',' (fun piece member => ?_) (by simpa using given)
  obtain ⟨code, among, rfl⟩ := List.mem_map.mp member
  obtain ⟨locale, rfl⟩ := known code among
  exact locale.code_clean.2.1

/-- Codes of locales are the pieces of the text that joins them, apart from the one piece of no codes. -/
theorem filter_pieces_joined (known : ∀ code ∈ codes, ∃ locale : Locale, locale.code = code) :
    (pieces (joined codes)).filter (· ≠ []) = codes.map String.toList := by
  by_cases given : codes = []
  · subst given
    rfl
  · rw [pieces_joined given known]
    refine List.filter_eq_self.mpr fun piece member => ?_
    obtain ⟨code, among, rfl⟩ := List.mem_map.mp member
    obtain ⟨locale, rfl⟩ := known code among
    exact decide_eq_true locale.code_clean.1

theorem map_ofList_toList : (codes.map String.toList).map String.ofList = codes := by
  rw [List.map_map]
  exact (List.map_congr_left fun code _ => String.ofList_toList).trans (List.map_id codes)

theorem storedCodes_joined (known : ∀ code ∈ codes, ∃ locale : Locale, locale.code = code) :
    storedCodes (joined codes) = codes := by
  rw [storedCodes, filter_pieces_joined known, map_ofList_toList]

/-- Trimming changes no piece of joined codes, since the piece of no codes is blank already. -/
theorem elements_joined (known : ∀ code ∈ codes, ∃ locale : Locale, locale.code = code) :
    elements (joined codes) = codes := by
  by_cases given : codes = []
  · subst given
    rfl
  · have trimmed : (pieces (joined codes)).map Text.trim = pieces (joined codes) := by
      refine (List.map_congr_left fun piece member => ?_).trans (List.map_id _)
      rw [pieces_joined given known] at member
      obtain ⟨code, among, rfl⟩ := List.mem_map.mp member
      obtain ⟨locale, rfl⟩ := known code among
      exact locale.code_clean.2.2
    rw [elements, trimmed, filter_pieces_joined known, map_ofList_toList]

theorem checkLocales_joined (known : ∀ code ∈ codes, ∃ locale : Locale, locale.code = code) :
    checkLocales (joined codes) = .ok (joined codes) := by
  refine checkLocales_eq_ok_iff.mpr ?_
  rw [elements_joined known]
  exact ⟨known, rfl⟩

end Settings

end RelativeTime
