import Listing.Proofs.Trimming
import Listing.Value
import Mathlib.Data.List.Basic

/-! The numbers of placeholders, read off a text. A text that is put together from others shows the numbers
of its parts in their order, as long as no part goes on with a digit. -/
namespace Listing.Text

/-- The numbers that stand behind dollar signs, from left to right. -/
def numbersIn : List Char → List Nat
  | [] => []
  | c :: cs =>
    let digits := cs.takeWhile Char.isDigit
    if c = '$' && !digits.isEmpty then Nat.ofDigitChars 10 digits 0 :: numbersIn cs else numbersIn cs

/-- The numbers of all placeholders that are written in a text. -/
def numbers (s : String) : List Nat := numbersIn s.toList

/-- A text without placeholders. -/
def Plain (s : String) : Prop := '$' ∉ s.toList

/-- A text that may follow any other, as it does not go on with a digit. -/
def Delimits (s : String) : Prop := s.toList.head?.all (!·.isDigit) = true

instance (s : String) : Decidable (Plain s) := inferInstanceAs (Decidable ('$' ∉ s.toList))
instance (s : String) : Decidable (Delimits s) := inferInstanceAs (Decidable (_ = true))

lemma plain_append {s t : String} : Plain (s ++ t) ↔ Plain s ∧ Plain t := by
  simp [Plain]

lemma plain_intercalate {sep : String} (hs : Plain sep) {parts : List String} (hp : ∀ s ∈ parts, Plain s) :
    Plain (sep.intercalate parts) := by
  induction parts with
  | nil => exact List.not_mem_nil
  | cons s parts ih =>
    obtain ⟨h, ht⟩ := List.forall_mem_cons.mp hp
    cases parts with
    | nil => simpa using h
    | cons t parts =>
      rw [String.intercalate_cons_cons, plain_append, plain_append]
      exact ⟨⟨h, hs⟩, ih ht⟩

lemma Delimits.append {s : String} (h : Delimits s) (hs : s ≠ "") (t : String) : Delimits (s ++ t) := by
  have hl : s.toList ≠ [] := fun hn => hs (String.toList_eq_nil_iff.mp hn)
  obtain ⟨c, cs, hc⟩ := List.exists_cons_of_ne_nil hl
  simpa [Delimits, hc] using h

/-- What follows with another character adds nothing to a run at the start. -/
lemma takeWhile_append_of_head {p : Char → Bool} {cs ds : List Char} (hd : ds.head?.all (!p ·) = true) :
    (cs ++ ds).takeWhile p = cs.takeWhile p := by
  have hn : ds.takeWhile p = [] := by
    cases ds with
    | nil => rfl
    | cons d ds => exact List.takeWhile_cons_of_neg (by simpa using hd)
  rw [List.takeWhile_append, hn, List.append_nil]
  split
  · rename_i hl
    exact ((List.takeWhile_prefix _).eq_of_length hl).symm
  · rfl

/-- The numbers of two texts are read apart. -/
lemma numbersIn_append {cs ds : List Char} (hd : ds.head?.all (!·.isDigit) = true) :
    numbersIn (cs ++ ds) = numbersIn cs ++ numbersIn ds := by
  induction cs with
  | nil => rfl
  | cons c cs ih =>
    rw [List.cons_append, numbersIn, numbersIn, takeWhile_append_of_head hd, ih]
    split <;> rfl

lemma numbersIn_append_of_not_mem {cs ds : List Char} (hc : '$' ∉ cs) :
    numbersIn (cs ++ ds) = numbersIn ds := by
  induction cs with
  | nil => rfl
  | cons c cs ih =>
    obtain ⟨h, hs⟩ := not_or.mp (List.mem_cons.not.mp hc)
    rw [List.cons_append, numbersIn, ih hs]
    simp [Ne.symm h]

lemma numbersIn_of_not_mem {cs : List Char} (hc : '$' ∉ cs) : numbersIn cs = [] := by
  have h : numbersIn (cs ++ []) = numbersIn [] := numbersIn_append_of_not_mem hc
  rwa [List.append_nil] at h

lemma numbers_of_plain {s : String} (hs : Plain s) : numbers s = [] := numbersIn_of_not_mem hs

lemma numbers_plain_append {s : String} (hs : Plain s) (t : String) : numbers (s ++ t) = numbers t := by
  rw [numbers, String.toList_append, numbersIn_append_of_not_mem hs]
  rfl

lemma numbers_append {t : String} (ht : Delimits t) (s : String) :
    numbers (s ++ t) = numbers s ++ numbers t := by
  rw [numbers, String.toList_append, numbersIn_append ht]
  rfl

/-- A placeholder is its number in decimal digits behind a dollar sign. -/
lemma exists_digits (n : Nat) :
    ∃ digits, (Placeholder.text ⟨n⟩).toList = '$' :: digits ∧ digits ≠ [] ∧
      (∀ c ∈ digits, c.isDigit = true) ∧ Nat.ofDigitChars 10 digits 0 = n :=
  ⟨Nat.toDigits 10 n, by simp [Placeholder.text, Nat.toString_eq_repr, Nat.toList_repr],
    Nat.toDigits_ne_nil, fun _ => Nat.isDigit_of_mem_toDigits (by decide) (by decide),
    Nat.ofDigitChars_ten_toDigits⟩

lemma numbers_placeholder (n : Nat) : numbers (Placeholder.text ⟨n⟩) = [n] := by
  obtain ⟨digits, hs, hne, hd, hn⟩ := exists_digits n
  have hp : '$' ∉ digits := fun h => absurd (hd _ h) (by decide)
  rw [numbers, hs, numbersIn, List.takeWhile_eq_self_iff.mpr hd, numbersIn_of_not_mem hp, hn]
  simp [hne]

/-- Parts between separators are read apart. -/
lemma numbers_intercalate {sep : String} (hs : Plain sep) (hd : Delimits sep) (hn : sep ≠ "")
    (parts : List String) : numbers (sep.intercalate parts) = parts.flatMap numbers := by
  induction parts with
  | nil => rfl
  | cons s parts ih =>
    cases parts with
    | nil => simp
    | cons t parts =>
      rw [String.intercalate_cons_cons, String.append_assoc, numbers_append (hd.append hn _),
        numbers_plain_append hs, ih]
      rfl

/-- The numbers of a list of placeholders. -/
lemma numbers_places (ps : List Placeholder) :
    numbers (String.intercalate "," (ps.map Placeholder.text)) = ps.map Placeholder.position := by
  rw [numbers_intercalate (by decide) (by decide) (by decide), List.flatMap_map, List.map_eq_flatMap]
  exact List.flatMap_congr fun p _ => numbers_placeholder p.position

lemma numbers_parenthesized (s : String) : numbers ("(" ++ (s ++ ")")) = numbers s := by
  have hc : numbers ")" = [] := rfl
  rw [numbers_plain_append (by decide), numbers_append (by decide), hc, List.append_nil]

lemma isDigit_of_isBlank {c : Char} (h : isBlank c = true) : c.isDigit = false := by
  rw [Bool.eq_false_iff]
  intro hd
  have hn : 48 ≤ c.toNat ∧ c.toNat ≤ 57 := Char.isDigit_iff_toNat.mp hd
  simp only [isBlank, Ranges.has, blankRanges, List.any_cons, List.any_nil, Bool.or_false, Bool.or_eq_true,
    Bool.and_eq_true, decide_eq_true_eq] at h
  omega

/-- Trimming leaves all placeholders as they are. -/
lemma numbers_trim (s : String) : numbers (trim s) = numbers s := by
  have hm {cs : List Char} (h : ∀ c ∈ cs, isBlank c = true) : '$' ∉ cs :=
    fun hm => absurd (h _ hm) (by decide)
  have hd {cs : List Char} (h : ∀ c ∈ cs, isBlank c = true) : cs.head?.all (!·.isDigit) = true := by
    cases cs with
    | nil => rfl
    | cons c cs => simp [isDigit_of_isBlank (h c List.mem_cons_self)]
  obtain ⟨before, after, hb, ha, hs⟩ := exists_trimChars s.toList
  symm
  calc numbers s = numbersIn (before ++ (trimChars s.toList ++ after)) := by rw [← hs, numbers]
    _ = numbersIn (trimChars s.toList ++ after) := numbersIn_append_of_not_mem (hm hb)
    _ = numbersIn (trimChars s.toList) ++ numbersIn after := numbersIn_append (hd ha)
    _ = numbers (trim s) := by
      rw [numbersIn_of_not_mem (hm ha), List.append_nil, numbers, trim, String.toList_ofList]

end Listing.Text
