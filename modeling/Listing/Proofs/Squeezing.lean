import Listing.Text.Blank
import Mathlib.Data.List.TakeWhile
import Mathlib.Tactic.Lemma

/-! Texts as they read without the case of their letters, and without their spaces. Neither matters for
what trimming takes away. -/
namespace Listing.Text

/-- A text without the case of its ASCII letters. -/
def folded (s : String) : List Char := s.toList.map Char.toLower

/-- A text without the case of its ASCII letters and without its spaces. -/
def squeezed (s : String) : List Char := (folded s).filter (· ≠ ' ')

@[simp] lemma folded_append (s t : String) : folded (s ++ t) = folded s ++ folded t := by
  simp [folded]

@[simp] lemma squeezed_append (s t : String) : squeezed (s ++ t) = squeezed s ++ squeezed t := by
  simp [squeezed]

lemma squeezed_of_folded {s t : String} (h : folded s = folded t) : squeezed s = squeezed t := by
  rw [squeezed, squeezed, h]

lemma eq_empty_iff_of_folded {s t : String} (h : folded s = folded t) : s = "" ↔ t = "" := by
  have hn (s : String) : s = "" ↔ folded s = [] := by simp [folded]
  rw [hn, hn, h]

/-- A reading of texts that goes through concatenation goes through lists. -/
lemma map_intercalate {read : String → List Char} (he : read "" = [])
    (ha : ∀ s t, read (s ++ t) = read s ++ read t) (sep : String) (parts : List String) :
    read (sep.intercalate parts) = (read sep).intercalate (parts.map read) := by
  induction parts with
  | nil => exact he
  | cons s parts ih =>
    cases parts with
    | nil => simp
    | cons t parts =>
      rw [String.intercalate_cons_cons, ha, ha, ih]
      simp [List.intercalate_cons_cons]

lemma folded_intercalate (sep : String) (parts : List String) :
    folded (sep.intercalate parts) = (folded sep).intercalate (parts.map folded) :=
  map_intercalate rfl folded_append sep parts

lemma squeezed_intercalate (sep : String) (parts : List String) :
    squeezed (sep.intercalate parts) = (squeezed sep).intercalate (parts.map squeezed) :=
  map_intercalate rfl squeezed_append sep parts

lemma squeezed_join (parts : List String) :
    squeezed (String.join parts) = (parts.map squeezed).flatten := by
  induction parts with
  | nil => rfl
  | cons s parts ih => simp [String.join_cons, ih]

/-! ### Trimming -/

lemma toNat_toLower (c : Char) :
    c.toLower.toNat = if 65 ≤ c.toNat ∧ c.toNat ≤ 90 then c.toNat + 32 else c.toNat := by
  have hl : c.val ≥ 'A'.val ∧ c.val ≤ 'Z'.val ↔ 65 ≤ c.toNat ∧ c.toNat ≤ 90 := by
    simp only [ge_iff_le, UInt32.le_iff_toNat_le]
    rfl
  unfold Char.toLower
  split
  · rename_i h
    have hm := hl.mp h
    have hv : (c.val + ('a'.val - 'A'.val)).toNat = c.toNat + 32 := by
      rw [UInt32.toNat_add]
      change (c.toNat + 32) % 2 ^ 32 = c.toNat + 32
      omega
    rw [if_pos hm]
    exact hv
  · rename_i h
    rw [if_neg (mt hl.mpr h)]

lemma isBlank_toLower (c : Char) : isBlank c.toLower = isBlank c := by
  simp only [isBlank, Ranges.has, blankRanges, List.any_cons, List.any_nil, toNat_toLower]
  split <;> grind

lemma dropWhile_squeeze (cs : List Char) :
    ((cs.map Char.toLower).filter (· ≠ ' ')).dropWhile isBlank =
      ((cs.dropWhile isBlank).map Char.toLower).filter (· ≠ ' ') := by
  have hf : (fun c => !decide (c ≠ ' ') || isBlank c) = isBlank := by
    funext c
    by_cases hc : c = ' '
    · subst hc
      decide
    · simp [hc]
  have hm : isBlank ∘ Char.toLower = isBlank := funext isBlank_toLower
  rw [List.dropWhile_filter, hf, List.dropWhile_map, hm]

/-- Trimming takes away whole spaces, and the same white space in either case of letters. -/
lemma squeezed_trim (s : String) : squeezed (trim s) = trimChars (squeezed s) := by
  have hd (cs : List Char) : dropTrailing isBlank ((cs.map Char.toLower).filter (· ≠ ' ')) =
      ((dropTrailing isBlank cs).map Char.toLower).filter (· ≠ ' ') := by
    rw [dropTrailing, ← List.filter_reverse, ← List.map_reverse, dropWhile_squeeze, dropTrailing,
      List.map_reverse, List.filter_reverse]
  rw [squeezed, folded, trim, String.toList_ofList, trimChars, ← hd, skipBlanks, ← dropWhile_squeeze]
  rfl

end Listing.Text
