import Listing.Proofs.JsonStrings
import Listing.Proofs.Literals

/-! JSON values read back from their texts, one behind another and arrays in one another. A string and an array
show by themselves where they end; an integer ends where no digit, point or exponent follows. -/
namespace Listing.Json
namespace Parser
variable {depth fuel n m : Nat} {j : Json} {js : List Json} {cs ds rest : List Char}

/-- What stands behind a value: a comma, the closing bracket of its array, or nothing. -/
def Follows (rest : List Char) : Prop := ∀ c ∈ rest.head?, c = ',' ∨ c = ']'

/-- The value is read back from its text, up to what follows it, with at most `depth` arrays in one another.
The steps are as many as a text of its length is given. -/
def Reads (depth : Nat) (j : Json) : Prop :=
  ∀ fuel rest, 2 * j.chars.length ≤ fuel → Follows rest → value fuel depth (j.chars ++ rest) = some (j, rest)

/-! ### Integers -/

lemma fractionPart_of_follows (h : Follows rest) : fractionPart rest = some (none, rest) := by
  unfold fractionPart
  split
  · exact absurd (h '.' rfl) (by decide)
  · rfl

lemma exponentPart_of_follows (h : Follows rest) : exponentPart rest = some (none, rest) := by
  cases rest with
  | nil => rfl
  | cons c cs =>
    have he : c ≠ 'e' ∧ c ≠ 'E' := by rcases h c rfl with rfl | rfl <;> decide
    simp [exponentPart, he]

/-- A word that fits all digits takes all of them. -/
lemma extend_eq (h : ds.foldl (fun n d => n * 10 + Number.digitValue d) m ≤ largestWord) :
    extend m ds = (ds.foldl (fun n d => n * 10 + Number.digitValue d) m, []) := by
  have grows (ds : List Char) (m : Nat) : m ≤ ds.foldl (fun n d => n * 10 + Number.digitValue d) m := by
    induction ds generalizing m with
    | nil => exact le_rfl
    | cons d ds ih =>
      exact le_trans (Nat.le_add_right_of_le (Nat.le_mul_of_pos_right m (by decide))) (ih _)
  induction ds generalizing m with
  | nil => rfl
  | cons d ds ih =>
    rw [List.foldl_cons] at h ⊢
    rw [extend, if_pos ((grows ds _).trans h), ih h]

lemma extend_toDigits (h : n ≤ largestWord) : extend 0 (Nat.toDigits 10 n) = (n, []) := by
  have hn : Number.ofDigits 10 (Nat.toDigits 10 n) = n :=
    ((Number.numeral_iff (by decide)).mp (Number.numeral_toDigits (by decide) n)).2.2
  have he : extend 0 (Nat.toDigits 10 n) = (Number.ofDigits 10 (Nat.toDigits 10 n), []) :=
    extend_eq (hn.le.trans h)
  rw [he, hn]

lemma number_toDigits (negative : Bool) (h : n ≤ largestWord) (hr : Follows rest) :
    number ((if negative then ['-'] else []) ++ (Nat.toDigits 10 n ++ rest)) = some (ofWord negative n, rest) := by
  have hd : ∀ c ∈ Nat.toDigits 10 n, c.isDigit = true := fun _ =>
    Nat.isDigit_of_mem_toDigits (by decide) (by decide)
  have hs : ∀ c ∈ rest.head?, c.isDigit = false := fun c hc => by rcases hr c hc with rfl | rfl <;> rfl
  obtain ⟨ht, hw⟩ := Number.span_digits_append hd hs
  have hz : ((Nat.toDigits 10 n).isEmpty || (Nat.toDigits 10 n).head? == some '0' &&
      decide ((Nat.toDigits 10 n).length > 1)) = false := by
    rcases n.eq_zero_or_pos with rfl | hn
    · rfl
    · simp [Number.head?_toDigits hn]
  unfold number
  split
  rename_i b cs hb
  have hb : (negative, Nat.toDigits 10 n ++ rest) = (b, cs) := by
    rw [← hb]
    cases negative with
    | true => rfl
    | false =>
      obtain ⟨c, cs, hc⟩ := List.exists_cons_of_ne_nil (Nat.toDigits_ne_nil (b := 10) (n := n))
      have hn : c ≠ '-' := fun he => absurd (hd c (by simp [hc])) (by rw [he]; decide)
      rw [hc]
      simp [hn]
  cases hb
  simp only [ht, hw, hz, Bool.false_eq_true, if_false, fractionPart_of_follows hr, Option.bind_eq_bind,
    Option.bind_some, exponentPart_of_follows hr, extend_toDigits h]
  rfl

/-- An integer is its digits, with a hyphen before those of a negative one. -/
lemma chars_integer (z : Int) :
    (integer z).chars = (if z < 0 then ['-'] else []) ++ Nat.toDigits 10 z.natAbs := by
  rw [chars, Int.toString_eq_repr, Int.repr_eq_if]
  split
  · rename_i hz
    obtain ⟨n, rfl⟩ := Int.eq_ofNat_of_zero_le hz
    simp [Nat.toList_repr]
  · rename_i hz
    have hn : (-z).toNat = z.natAbs := by omega
    simp [Int.not_le.mp hz, hn, Nat.toList_repr]

lemma exists_head_integer (z : Int) :
    ∃ c cs, (integer z).chars = c :: cs ∧ (c.isDigit = true ∨ c = '-') := by
  rw [chars_integer]
  split
  · exact ⟨_, _, rfl, .inr rfl⟩
  · obtain ⟨c, cs, hc⟩ := List.exists_cons_of_ne_nil (Nat.toDigits_ne_nil (b := 10) (n := z.natAbs))
    have hm : c ∈ Nat.toDigits 10 z.natAbs := by simp [hc]
    exact ⟨c, cs, hc, .inl (Nat.isDigit_of_mem_toDigits (by decide) (by decide) hm)⟩

lemma value_of_number {c : Char} (hc : c.isDigit = true ∨ c = '-') :
    value (fuel + 1) depth (c :: cs) = number (c :: cs) := by
  have hs : c ∉ [' ', '\t', '\n', '\r', '"', '[', '\x7b', 't', 'f', 'n'] := by
    rcases hc with hc | rfl
    · have hd : [' ', '\t', '\n', '\r', '"', '[', '\x7b', 't', 'f', 'n'].all (fun d => !d.isDigit) = true := by decide
      intro hm
      have hn := List.all_eq_true.mp hd c hm
      rw [hc] at hn
      nomatch hn
    · decide
  simp only [List.mem_cons, List.not_mem_nil, or_false, not_or] at hs
  simp [value, skip, isSpace, hs]

lemma ofWord_natAbs {z : Int} (lower : -0x8000000000000000 ≤ z) : ofWord (decide (z < 0)) z.natAbs = integer z := by
  by_cases hz : z < 0
  · have hn : ¬ (decide (z.natAbs = 0) || decide (z.natAbs > 0x8000000000000000)) = true := by
      simp only [Bool.or_eq_true, decide_eq_true_eq]
      omega
    have ha : -(z.natAbs : Int) = z := by omega
    rw [decide_eq_true hz, ofWord, if_neg (by decide), if_neg hn, ha]
  · have ha : (z.natAbs : Int) = z := by omega
    rw [decide_eq_false hz, ofWord, if_pos (by decide), ha]

/-- The integers that are read as such go from the least with a sign to the greatest without. -/
lemma reads_integer (depth : Nat) {z : Int} (lower : -0x8000000000000000 ≤ z) (upper : z ≤ largestWord) :
    Reads depth (.integer z) := by
  intro fuel rest hf hr
  have hw : z.natAbs ≤ largestWord := by
    rw [largestWord] at upper ⊢
    omega
  have hn := number_toDigits (decide (z < 0)) hw hr
  simp only [ofWord_natAbs lower, ← List.append_assoc, decide_eq_true_eq, ← chars_integer] at hn
  obtain ⟨c, cs, hc, hd⟩ := exists_head_integer z
  rw [hc, List.cons_append] at hn ⊢
  rw [hc, List.length_cons] at hf
  obtain ⟨k, rfl⟩ := Nat.exists_eq_add_of_le' (show 1 ≤ fuel by omega)
  rw [value_of_number hd, hn]

/-! ### Strings and truth values -/

lemma reads_string (depth : Nat) (s : String) : Reads depth (.string s) := by
  intro fuel rest hf _
  simp only [chars, quoted, List.length_cons] at hf
  obtain ⟨k, rfl⟩ := Nat.exists_eq_add_of_le' (show 1 ≤ fuel by omega)
  exact value_string k depth s rest

lemma reads_bool (depth : Nat) (b : Bool) : Reads depth (.bool b) := by
  intro fuel rest hf _
  cases b with
  | true | false =>
    obtain ⟨k, rfl⟩ := Nat.exists_eq_add_of_le' (show 1 ≤ fuel from le_trans (by decide) hf)
    simp [value, chars, skip, isSpace, literal]

/-! ### Arrays -/

lemma follows_moreItems (js : List Json) (rest : List Char) : Follows (moreItems js ++ rest) := by
  cases js with
  | nil =>
    rintro c ⟨⟩
    exact .inr rfl
  | cons j js =>
    rintro c ⟨⟩
    exact .inl rfl

/-- The elements of an array, one after another up to the bracket that closes it. -/
lemma items_of_reads (h : ∀ k ∈ j :: js, Reads depth k) (hf : 2 * (j.chars ++ moreItems js).length ≤ fuel) :
    items fuel depth (j.chars ++ (moreItems js ++ rest)) = some (j :: js, rest) := by
  induction js generalizing j fuel with
  | nil =>
    simp only [moreItems, List.length_append, List.length_singleton] at hf
    obtain ⟨k, rfl⟩ := Nat.exists_eq_add_of_le' (show 1 ≤ fuel by omega)
    rw [items, h j (.head _) k _ (by omega) (follows_moreItems [] rest)]
    simp [moreItems, skip, isSpace]
  | cons i js ih =>
    simp only [moreItems, List.length_append, List.length_cons] at hf
    obtain ⟨k, rfl⟩ := Nat.exists_eq_add_of_le' (show 1 ≤ fuel by omega)
    have hi : items k depth (i.chars ++ (moreItems js ++ rest)) = some (i :: js, rest) :=
      ih (fun l hl => h l (.tail _ hl)) (by simp only [List.length_append]; omega)
    rw [items, h j (.head _) k _ (by omega) (follows_moreItems (i :: js) rest)]
    simp [moreItems, skip, isSpace, hi]

lemma value_of_closing (h : skip cs = ']' :: rest) : value fuel depth cs = none := by
  cases fuel with
  | zero => rw [value]
  | succ fuel =>
    rw [value, h]
    simp [number]

/-- What has elements is not taken for an empty array. -/
lemma value_of_items (h : items fuel depth cs = some (js, rest)) :
    value (fuel + 1) (depth + 1) ('[' :: cs) = some (array js, rest) := by
  have hc (tail : List Char) : skip cs ≠ ']' :: tail := by
    intro hs
    cases fuel with
    | zero => simp [items] at h
    | succ fuel => simp [items, value_of_closing hs] at h
  have hb : skip ('[' :: cs) = '[' :: cs := rfl
  rw [value, hb]
  -- By `hc`, the reader goes on to the elements.
  simp [h]

lemma reads_array (h : ∀ k ∈ js, Reads depth k) : Reads (depth + 1) (.array js) := by
  intro fuel rest hf hr
  cases js with
  | nil =>
    obtain ⟨k, rfl⟩ := Nat.exists_eq_add_of_le' (show 1 ≤ fuel from le_trans (by decide) hf)
    simp [value, chars, itemsChars, skip, isSpace]
  | cons j js =>
    simp only [chars, itemsChars, List.length_cons] at hf
    obtain ⟨k, rfl⟩ := Nat.exists_eq_add_of_le' (show 1 ≤ fuel by omega)
    simp only [chars, itemsChars, List.cons_append, List.append_assoc]
    exact value_of_items (items_of_reads h (by omega))

lemma reads_ofStrings (depth : Nat) (ss : List String) : Reads (depth + 1) (ofStrings ss) := by
  refine reads_array fun j hj => ?_
  obtain ⟨s, -, rfl⟩ := List.mem_map.mp hj
  exact reads_string depth s

end Parser

theorem parse?_text {j : Json} (h : Parser.Reads Parser.deepest j) : parse? j.text = some j := by
  have hv := h (2 * j.chars.length + 2) [] (by omega) nofun
  rw [List.append_nil] at hv
  rw [parse?, text, String.toList_ofList, Parser.document, hv]
  rfl

/-- A list of strings is read back from its text. -/
theorem parse?_text_ofStrings (ss : List String) : parse? (ofStrings ss).text = some (ofStrings ss) :=
  parse?_text (Parser.reads_ofStrings 126 ss)

end Listing.Json
