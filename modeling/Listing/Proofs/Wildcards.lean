import Listing.Proofs.Numbers
import Listing.Proofs.Readers

/-! No number, truth value or date is written with a wildcard. -/
namespace Listing

/-! ### Numbers -/

namespace Number
variable {cs : List Char}

lemma not_mem_of_parseChars {D : Text.Digits} (h : (parseChars D cs).isNaN = false) : '*' ∉ cs := by
  intro hs
  have hl : literalChar '*' = true := (hasShape_of_parseChars h).literalChar '*' hs
  nomatch hl

theorem not_mem_of_parse {s : String} (h : (parse s).isNaN = false) : '*' ∉ s.toList := by
  have hp := not_mem_of_parseChars h
  intro hs
  obtain ⟨before, after, hb, ha, ht⟩ := Text.exists_trimChars s.toList
  rw [ht] at hs
  rcases List.mem_append.mp hs with hs | hs
  · exact absurd (hb '*' hs) (by decide)
  · rcases List.mem_append.mp hs with hs | hs
    · exact hp hs
    · exact absurd (ha '*' hs) (by decide)

end Number

/-! ### Types -/

lemma Calendar.not_mem_of_isIso8601 {cs : List Char} (h : isIso8601 cs = true) : '*' ∉ cs := fun hs =>
  absurd (isRead_of_isIso8601 h '*' hs) (by decide)

lemma Domain.not_mem_of_isBooleanWord {s : String} (h : isBooleanWord s = true) : '*' ∉ s.toList := by
  intro hs
  have hm : caseless '*' ∈ s.toList.map caseless := List.mem_map_of_mem hs
  simp only [isBooleanWord, Bool.or_eq_true, beq_iff_eq] at h
  rcases h with h | h
  all_goals
    rw [h] at hm
    exact absurd hm (by decide)

/-- Of all types, texts only can have wildcards. -/
theorem SelectorType.not_mem_of_accepts {t : SelectorType} {s : String} (ht : t ≠ .string)
    (h : t.accepts s = true) : '*' ∉ s.toList := by
  cases t with
  | string => exact absurd rfl ht
  | number => exact Number.not_mem_of_parse (by simpa [accepts, Domain.isNumeric] using h)
  | integer =>
    simp only [accepts, Bool.and_eq_true] at h
    exact Number.not_mem_of_parse (by simpa [Domain.isNumeric] using h.2)
  | date =>
    simp only [accepts, Bool.and_eq_true] at h
    exact Calendar.not_mem_of_isIso8601 h.2
  | dateTime => exact Calendar.not_mem_of_isIso8601 h
  | boolean => exact Domain.not_mem_of_isBooleanWord h

end Listing
