import Listing.Text.Blank
import Mathlib.Data.List.Basic
import Mathlib.Data.List.TakeWhile
import Mathlib.Tactic.Lemma

/-! What trimming takes away, and what it leaves. -/
namespace Listing.Text

/-- The text `cs` stands in `ds` between white space, and has none at its own ends. -/
def IsCore (cs ds : List Char) : Prop :=
  ∃ before after, (∀ c ∈ before, isBlank c = true) ∧ (∀ c ∈ after, isBlank c = true) ∧
    (∀ c ∈ cs.head?, isBlank c = false) ∧ (∀ c ∈ cs.getLast?, isBlank c = false) ∧
    ds = before ++ (cs ++ after)

lemma dropWhile_eq_self {p : Char → Bool} {cs : List Char} (h : ∀ c ∈ cs.head?, p c = false) :
    cs.dropWhile p = cs := by
  cases cs with
  | nil => rfl
  | cons c cs => rw [List.dropWhile_cons_of_neg (by simp [h c rfl])]

lemma dropTrailing_append_of_getLast? {p : Char → Bool} {cs ds : List Char} (hd : ∀ d ∈ ds, p d = true)
    (hc : ∀ c ∈ cs.getLast?, p c = false) : dropTrailing p (cs ++ ds) = cs := by
  have hr : cs.reverse.dropWhile p = cs.reverse := dropWhile_eq_self (by rwa [List.head?_reverse])
  have hs : ∀ d ∈ ds.reverse, p d = true := fun d h => hd d (List.mem_reverse.mp h)
  rw [dropTrailing, List.reverse_append, List.dropWhile_append_of_pos hs, hr, List.reverse_reverse]

lemma dropTrailing_append {p : Char → Bool} {cs ds : List Char} (hd : ∀ d ∈ ds, p d = true)
    (hc : ∀ c ∈ cs, p c = false) : dropTrailing p (cs ++ ds) = cs :=
  dropTrailing_append_of_getLast? hd fun c h => hc c (List.mem_of_getLast? h)

/-- Trimming finds what stands between white space. -/
lemma IsCore.eq {cs ds : List Char} (h : IsCore cs ds) : trimChars ds = cs := by
  obtain ⟨before, after, hb, ha, hh, hl, rfl⟩ := h
  rw [trimChars, skipBlanks, List.dropWhile_append_of_pos hb]
  cases cs with
  | nil =>
    have hn : ([] ++ after).dropWhile isBlank = [] := List.dropWhile_eq_nil_iff.mpr ha
    rw [hn]
    rfl
  | cons c cs =>
    have hn : ((c :: cs) ++ after).dropWhile isBlank = (c :: cs) ++ after := dropWhile_eq_self hh
    rw [hn, dropTrailing_append_of_getLast? ha hl]

/-- A text without white space is what trimming finds between white space. -/
lemma trimChars_surrounded {before cs after : List Char} (hb : ∀ c ∈ before, isBlank c = true)
    (ha : ∀ c ∈ after, isBlank c = true) (hc : ∀ c ∈ cs, isBlank c = false) :
    trimChars (before ++ (cs ++ after)) = cs :=
  IsCore.eq ⟨before, after, hb, ha, fun c h => hc c (List.mem_of_head? h),
    fun c h => hc c (List.mem_of_getLast? h), rfl⟩

lemma trimChars_eq_self {cs : List Char} (h : ∀ c ∈ cs, isBlank c = false) : trimChars cs = cs := by
  have ht : trimChars ([] ++ (cs ++ [])) = cs := trimChars_surrounded (by simp) (by simp) h
  rwa [List.nil_append, List.append_nil] at ht

lemma head?_dropWhile {p : Char → Bool} (cs : List Char) : ∀ c ∈ (cs.dropWhile p).head?, p c = false := by
  intro c hc
  have h := List.head?_dropWhile_not p cs
  rwa [Option.mem_def.mp hc] at h

lemma exists_dropTrailing (p : Char → Bool) (cs : List Char) : ∃ after, (∀ c ∈ after, p c = true) ∧
    (∀ c ∈ (dropTrailing p cs).getLast?, p c = false) ∧ cs = dropTrailing p cs ++ after := by
  refine ⟨(cs.reverse.takeWhile p).reverse, fun c hc => List.mem_takeWhile_imp (List.mem_reverse.mp hc), ?_, ?_⟩
  · rw [dropTrailing, List.getLast?_reverse]
    exact head?_dropWhile _
  · rw [dropTrailing, ← List.reverse_append, List.takeWhile_append_dropWhile, List.reverse_reverse]

/-- Every text has such a core. -/
lemma isCore_trimChars (cs : List Char) : IsCore (trimChars cs) cs := by
  obtain ⟨after, ha, hl, hs⟩ := exists_dropTrailing isBlank (skipBlanks cs)
  rw [← trimChars] at hl hs
  refine ⟨cs.takeWhile isBlank, after, fun c => List.mem_takeWhile_imp, ha, fun c hc => ?_, hl, ?_⟩
  · refine head?_dropWhile cs c ?_
    rw [← skipBlanks, hs]
    exact List.mem_head?_append_of_mem_head? hc
  · rw [← hs, skipBlanks, List.takeWhile_append_dropWhile]

/-- Trimming takes away white space at both ends, and nothing else. -/
lemma exists_trimChars (cs : List Char) : ∃ before after,
    (∀ c ∈ before, isBlank c = true) ∧ (∀ c ∈ after, isBlank c = true) ∧
      cs = before ++ (trimChars cs ++ after) := by
  obtain ⟨before, after, hb, ha, -, -, hs⟩ := isCore_trimChars cs
  exact ⟨before, after, hb, ha, hs⟩

variable {p : Char → Bool} {c : Char}

lemma dropTrailing_append_cons (hc : p c = false) (cs ds : List Char) :
    dropTrailing p (cs ++ c :: ds) = cs ++ c :: dropTrailing p ds := by
  have hr : (cs ++ c :: ds).reverse = ds.reverse ++ (c :: cs.reverse) := by simp
  rw [dropTrailing, hr, List.dropWhile_append]
  split
  · rename_i he
    rw [List.dropWhile_cons_of_neg (by simp [hc]), dropTrailing, List.isEmpty_iff.mp he]
    simp
  · simp [dropTrailing]

lemma trimChars_cons (hc : isBlank c = false) (cs : List Char) :
    trimChars (c :: cs) = c :: dropTrailing isBlank cs := by
  rw [trimChars, skipBlanks, List.dropWhile_cons_of_neg (by simp [hc])]
  exact dropTrailing_append_cons hc [] cs

lemma trim_blank_append (s : String) : trim (" " ++ s) = trim s := by
  have hl : (" " ++ s).toList = ' ' :: s.toList := by simp
  rw [trim, trim, hl, trimChars, trimChars, skipBlanks, List.dropWhile_cons_of_pos (by decide)]
  rfl

lemma trimChars_eq_nil_iff {cs : List Char} : trimChars cs = [] ↔ ∀ c ∈ cs, isBlank c = true := by
  constructor
  · intro hn
    obtain ⟨before, after, hb, ha, hs⟩ := exists_trimChars cs
    rw [hs, hn, List.nil_append]
    exact fun c hc => (List.mem_append.mp hc).elim (hb c) (ha c)
  · intro h
    rw [trimChars, skipBlanks, List.dropWhile_eq_nil_iff.mpr h]
    rfl

/-- A character that is not white space outlasts trimming. -/
lemma trim_ne_empty {s : String} (hm : c ∈ s.toList) (hc : isBlank c = false) : trim s ≠ "" := by
  intro h
  have hn : trimChars s.toList = [] := by simpa [trim] using congrArg String.toList h
  have hblank := trimChars_eq_nil_iff.mp hn c hm
  rw [hc] at hblank
  nomatch hblank

end Listing.Text
