import Listing.Coercion
import Listing.Proofs.Literals
import Listing.Proofs.Trimming
import Mathlib.Algebra.Group.Nat.Defs
import Mathlib.Algebra.Ring.Int.Defs

/-! What texts are read as. Patterns and readers are tried one after the other, but no order matters, and neither
does it matter which digits the patterns take: an integer that fits is read as itself, every other literal as some
number, and a text without a shape as no number. -/
namespace Listing

namespace Text

/-- Trimming leaves a text of digits as it is. -/
lemma Digits.trimChars_eq (D : Digits) {cs : List Char} (h : ∀ c ∈ cs, D.has c = true) : trimChars cs = cs :=
  trimChars_eq_self fun c hc => D.blank c (h c hc)

end Text

namespace Binary64

lemma isNaN_ofRatio (negative : Bool) (num den : Nat) : (ofRatio negative num den).isNaN = false := by
  unfold ofRatio ofMagnitude
  split_ifs <;> rfl

lemma isNaN_ofDecimal (negative : Bool) (n digits : Nat) (e : Int) :
    (ofDecimal negative n digits e).isNaN = false := by
  unfold ofDecimal
  split_ifs
  · rfl
  · rfl
  · exact isNaN_ofRatio _ _ _

end Binary64

namespace Number
variable {cs : List Char} {c : Char}

/-- The texts that are read as numbers. An integer out of range is one of them as a decimal literal. -/
inductive HasShape : List Char → Prop
  | empty : HasShape []
  | integer {cs : List Char} {z : Int} (h : IsInteger cs z) (hl : -2 ^ 63 ≤ z) (hh : z < 2 ^ 63) : HasShape cs
  | prefixed {cs : List Char} {m : Nat} (h : IsPrefixed cs m) (hh : m < 2 ^ 63) : HasShape cs
  | decimal {cs : List Char} (h : IsDecimal cs) : HasShape cs
  | infinity {cs : List Char} (h : IsInfinity cs) : HasShape cs

/-- What a text without white space at its ends is read as. -/
structure ReadAs (cs : List Char) (x : Number) : Prop where
  empty : cs = [] → x = .int 0
  integer : ∀ z, IsInteger cs z → -2 ^ 63 ≤ z → z < 2 ^ 63 → ∃ n : Int64, n.toInt = z ∧ x = .int n
  prefixed : ∀ m, IsPrefixed cs m → m < 2 ^ 63 → ∃ n : Int64, n.toInt = m ∧ x = .int n
  literal : IsDecimal cs ∨ IsInfinity cs → x.isNaN = false
  other : ¬ HasShape cs → x = .float .nan
  beyond : ∀ m, IsPrefixed cs m → 2 ^ 63 ≤ m → x = .float .nan
  foreign : ∀ c ∈ cs, 128 ≤ c.toNat → x = .float .nan
  signed : ∀ letter radix sign ds, (letter, radix) ∈ radixLetters → sign = '+' ∨ sign = '-' →
    cs = '0' :: letter :: sign :: ds → x = .float .nan

/-! ### Characters of literals -/

def decimalChar (c : Char) : Bool := c.isDigit || ['+', '-', '.', 'e', 'E'].contains c

def literalChar (c : Char) : Bool := digitValue c < 36 || ['+', '-', '.'].contains c

lemma Sign.decimalChar {sign : List Char} {negative : Bool} (h : Sign sign negative) :
    ∀ c ∈ sign, decimalChar c = true := by
  cases h <;> simp [Number.decimalChar]

lemma IsInteger.decimalChar {z : Int} (h : IsInteger cs z) : ∀ c ∈ cs, decimalChar c = true := by
  obtain ⟨sign, negative, ds, n, hs, hn, rfl, -⟩ := h
  have hd := (isDigits_iff.mp (numeral_ten_iff.mp hn).1).2
  refine List.forall_mem_append.mpr ⟨hs.decimalChar, fun c hc => ?_⟩
  simp [Number.decimalChar, hd c hc]

lemma Mantissa.decimalChar (h : Mantissa cs) : ∀ c ∈ cs, decimalChar c = true := by
  have hdigit {ds : List Char} (hd : ∀ c ∈ ds, c.isDigit = true) : ∀ c ∈ ds, Number.decimalChar c = true :=
    fun c hc => by simp [Number.decimalChar, hd c hc]
  cases h with
  | whole hn hd => exact hdigit hd
  | point hn hd =>
    obtain ⟨hds, hes⟩ := List.forall_mem_append.mp hd
    exact List.forall_mem_append.mpr ⟨hdigit hds, List.forall_mem_cons.mpr ⟨rfl, hdigit hes⟩⟩

lemma Exponent.decimalChar (h : Exponent cs) : ∀ c ∈ cs, decimalChar c = true := by
  cases h with
  | absent => simp
  | present he h =>
    refine List.forall_mem_cons.mpr ⟨?_, h.decimalChar⟩
    rcases he with rfl | rfl <;> rfl

lemma IsDecimal.decimalChar (h : IsDecimal cs) : ∀ c ∈ cs, decimalChar c = true := by
  obtain ⟨sign, negative, mantissa, exponent, hs, hm, he, rfl⟩ := h
  exact List.forall_mem_append.mpr
    ⟨hs.decimalChar, List.forall_mem_append.mpr ⟨hm.decimalChar, he.decimalChar⟩⟩

lemma literalChar_of_decimalChar (h : decimalChar c = true) : literalChar c = true := by
  simp only [decimalChar, Bool.or_eq_true, List.contains_eq_mem, decide_eq_true_eq, List.mem_cons,
    List.not_mem_nil, or_false] at h
  rcases h with h | rfl | rfl | rfl | rfl | rfl
  · have hv : digitValue c < 36 := by
      have hd := digitValue_lt_ten_iff.mpr h
      omega
    simp [literalChar, hv]
  all_goals rfl

lemma literalChar_of_not_ascii (h : 128 ≤ c.toNat) : literalChar c = false := by
  have hmarks : ∀ d ∈ ['+', '-', '.'], d.toNat < 128 := by simp
  have hc : c ∉ ['+', '-', '.'] := fun hm => by
    have hl := hmarks c hm
    omega
  simpa [literalChar, digitValue_of_not_ascii h] using hc

lemma IsPrefixed.literalChar {n : Nat} (h : IsPrefixed cs n) : ∀ c ∈ cs, literalChar c = true := by
  obtain ⟨letter, radix, ds, hm, hn, rfl⟩ := h
  have hletter : ∀ p ∈ radixLetters, Number.literalChar p.1 = true := by decide
  have hd := ((numeral_iff (radix_le hm)).mp hn).2.1
  have hr := radix_le hm
  refine List.forall_mem_cons.mpr ⟨rfl, List.forall_mem_cons.mpr ⟨hletter _ hm, fun c hc => ?_⟩⟩
  have hv : digitValue c < 36 := by
    have hl := hd c hc
    omega
  simp [Number.literalChar, hv]

lemma IsInfinity.literalChar (h : IsInfinity cs) : ∀ c ∈ cs, literalChar c = true := by
  obtain ⟨sign, negative, hs, rfl⟩ := h
  have hi : ("Infinity".toList.all Number.literalChar) = true := by decide
  exact List.forall_mem_append.mpr
    ⟨fun c hc => literalChar_of_decimalChar (hs.decimalChar c hc), List.all_eq_true.mp hi⟩

/-- All literals are written with letters and digits of ASCII, signs and points. -/
lemma HasShape.literalChar (h : HasShape cs) : ∀ c ∈ cs, literalChar c = true := by
  cases h with
  | empty => simp
  | integer h _ _ => exact fun c hc => literalChar_of_decimalChar (h.decimalChar c hc)
  | prefixed h _ => exact h.literalChar
  | decimal h => exact fun c hc => literalChar_of_decimalChar (h.decimalChar c hc)
  | infinity h => exact h.literalChar

/-- A literal with the letter of a radix has no other shape. -/
lemma not_isDecimal_of_radixLetter {letter : Char} {radix : Nat} (hm : (letter, radix) ∈ radixLetters)
    (ds : List Char) : ¬ IsDecimal ('0' :: letter :: ds) := by
  intro h
  have hletter : ∀ p ∈ radixLetters, Number.decimalChar p.1 = false := by decide
  have hc := h.decimalChar letter (by simp)
  rw [hletter _ hm] at hc
  nomatch hc

lemma not_isInfinity_of_zero (ds : List Char) : ¬ IsInfinity ('0' :: ds) := by
  rintro ⟨sign, negative, hs, h⟩
  cases hs <;> simp at h

/-! ### Patterns -/

variable {D : Text.Digits}

lemma not_startsWithMantissa (hd : D.has c = false) (hp : c ≠ '.') : ¬ StartsWithMantissa D (c :: cs) := by
  have hf : fraction D (c :: cs) = ([], c :: cs) := fraction_eq (by simpa using hp)
  simp [StartsWithMantissa, splitMantissa, hd, hf]

/-- The patterns of decimal literals have no place for the letter of a radix, whichever digits they take. -/
lemma pattern_decimal_radixLetter {letter : Char} {radix : Nat} (hm : (letter, radix) ∈ radixLetters)
    (ds : List Char) : Pattern.decimal D ('0' :: letter :: ds) = false := by
  have hl : ∀ p ∈ radixLetters, p.1.toNat < 128 ∧ p.1.isDigit = false ∧ p.1 ∉ ['.', 'e', 'E'] := by decide
  obtain ⟨ha, hd, hs⟩ := hl _ hm
  rw [← D.ascii letter ha] at hd
  simp only [List.mem_cons, List.not_mem_nil, or_false, not_or] at hs
  have hz : D.has '0' = true := D.has_of_isDigit rfl
  have hf : fraction D (letter :: ds) = ([], letter :: ds) := fraction_eq (by simpa using hs.1)
  simp [Pattern.decimal, splitSign, splitMantissa, hz, hd, hf, hs, Pattern.exponent]

lemma IsInfinity.pattern (h : IsInfinity cs) (D : Text.Digits) : Pattern.decimal D cs = false := by
  obtain ⟨sign, negative, hs, rfl⟩ := h
  have hi : D.has 'I' = false := D.ascii 'I' (by decide)
  rw [Bool.eq_false_iff, ne_eq, pattern_decimal_iff, splitSign_append hs (by simp)]
  exact fun h => not_startsWithMantissa hi (by decide) h.1

/-! ### Reading -/

lemma fits_iff {z : Int} : fits z = true ↔ -2 ^ 63 ≤ z ∧ z < 2 ^ 63 := by
  simp [fits]

lemma IsInteger.parseChars {z : Int} (h : IsInteger cs z) (hz : fits z = true) :
    parseChars D cs = .int (.ofInt z) := by
  have hn : (integer? cs).filter fits = some z :=
    Option.filter_eq_some_iff.mpr ⟨integer?_eq_some_iff.mpr h, hz⟩
  have hp := h.pattern D
  cases cs with
  | nil => nomatch hn
  | cons c cs => simp only [Number.parseChars, List.isEmpty_cons, hp, hn, Bool.false_eq_true, if_false, if_true]

/-- A literal with the letter of a radix passes all recognizers before the last. -/
lemma IsPrefixed.parseChars {m : Nat} (h : IsPrefixed cs m) (hm : fits m = true) :
    parseChars D cs = .int (.ofInt m) := by
  have hr : inRadix? cs = some m := inRadix?_eq_some_iff.mpr h
  obtain ⟨letter, radix, ds, hl, -, rfl⟩ := h
  have hd : Pattern.decimal D ('0' :: letter :: ds) = false := pattern_decimal_radixLetter hl ds
  have hf : infinity? ('0' :: letter :: ds) = none := by
    rw [← Option.not_isSome_iff_eq_none, isSome_infinity?_iff]
    exact not_isInfinity_of_zero _
  have hi : integer? ('0' :: letter :: ds) = none := by
    rw [Option.eq_none_iff_forall_ne_some]
    exact fun z hz => not_isDecimal_of_radixLetter hl ds (integer?_eq_some_iff.mp hz).isDecimal
  have hn : (some (m : Int)).filter (fits ·) = some (m : Int) := Option.filter_eq_some_iff.mpr ⟨rfl, hm⟩
  simp [Number.parseChars, hi, hd, hf, hr, hn]

lemma isNaN_of_decimal? {x : Binary64} (h : decimal? cs = some x) : x.isNaN = false := by
  simp only [decimal?] at h
  split at h
  · cases h
  · obtain ⟨e, -, h⟩ := Option.bind_eq_some_iff.mp h
    cases h
    exact Binary64.isNaN_ofDecimal _ _ _ _

lemma isNaN_of_infinity? {x : Binary64} (h : infinity? cs = some x) : x.isNaN = false := by
  simp only [infinity?] at h
  split at h
  · cases h
    rfl
  · cases h

/-- Of what has the pattern of a decimal literal, the literals are numbers and nothing else is. -/
lemma isNaN_getD_decimal?_iff : ((decimal? cs).getD .nan).isNaN = false ↔ IsDecimal cs := by
  rw [← isSome_decimal?_iff]
  cases hd : decimal? cs with
  | none => simp [Binary64.isNaN]
  | some x => simp [isNaN_of_decimal? hd]

lemma isNaN_parseChars_of_literal (h : IsDecimal cs ∨ IsInfinity cs) : (parseChars D cs).isNaN = false := by
  unfold parseChars
  -- Whatever recognizer is the first to take the text, it gives a number; one of these two would at the latest.
  split
  · rfl
  split
  · rfl
  split
  · rename_i hp
    refine isNaN_getD_decimal?_iff.mpr (h.resolve_right fun hi => ?_)
    rw [hi.pattern D] at hp
    nomatch hp
  rename_i hp
  split
  · rename_i x hx
    exact isNaN_of_infinity? hx
  rename_i hf
  rcases h with h | h
  · exact absurd (h.pattern D) hp
  · rw [← isSome_infinity?_iff, hf] at h
    nomatch h

/-- What is read as a number has a shape, since one of the readers took it. -/
lemma hasShape_of_parseChars (h : (parseChars D cs).isNaN = false) : HasShape cs := by
  unfold parseChars at h
  split at h
  · rename_i he
    exact List.isEmpty_iff.mp he ▸ .empty
  split at h
  · rename_i z hz
    split at hz
    · obtain ⟨hi, hf⟩ := Option.filter_eq_some_iff.mp hz
      exact .integer (integer?_eq_some_iff.mp hi) (fits_iff.mp hf).1 (fits_iff.mp hf).2
    · nomatch hz
  split at h
  · exact .decimal (isNaN_getD_decimal?_iff.mp h)
  split at h
  · rename_i x hx
    exact .infinity (isSome_infinity?_iff.mp (Option.isSome_of_eq_some hx))
  split at h
  · rename_i z hz
    obtain ⟨hb, hf⟩ := Option.filter_eq_some_iff.mp hz
    obtain ⟨m, hm, hz⟩ := Option.bind_eq_some_iff.mp hb
    cases hz
    exact .prefixed (inRadix?_eq_some_iff.mp hm) (by have := (fits_iff.mp hf).2; omega)
  · nomatch h

lemma eq_nan_of_not_hasShape (h : ¬ HasShape cs) : parseChars D cs = .float .nan := by
  have hn : (parseChars D cs).isNaN ≠ false := fun hn => h (hasShape_of_parseChars hn)
  generalize parseChars D cs = x at hn ⊢
  rcases x with n | x
  · exact absurd rfl hn
  · cases x with
    | nan => rfl
    | infinite | finite => exact absurd rfl hn

/-- A zero and the letter of a radix begin no other literal. -/
lemma HasShape.isPrefixed {letter : Char} {radix : Nat} {ds : List Char} (hl : (letter, radix) ∈ radixLetters)
    (h : HasShape ('0' :: letter :: ds)) : ∃ m < 2 ^ 63, IsPrefixed ('0' :: letter :: ds) m := by
  cases h with
  | integer h _ _ => exact absurd h.isDecimal (not_isDecimal_of_radixLetter hl ds)
  | prefixed h hh => exact ⟨_, hh, h⟩
  | decimal h => exact absurd h (not_isDecimal_of_radixLetter hl ds)
  | infinity h => exact absurd h (not_isInfinity_of_zero _)

lemma not_hasShape_of_beyond {m : Nat} (hm : IsPrefixed cs m) (hl : 2 ^ 63 ≤ m) : ¬ HasShape cs := by
  intro h
  have hr : inRadix? cs = some m := inRadix?_eq_some_iff.mpr hm
  obtain ⟨letter, radix, ds, hletter, -, rfl⟩ := hm
  obtain ⟨n, hn, h⟩ := h.isPrefixed hletter
  rw [inRadix?_eq_some_iff.mpr h] at hr
  cases hr
  omega

lemma not_hasShape_of_foreign (hm : c ∈ cs) (hc : 128 ≤ c.toNat) : ¬ HasShape cs := by
  intro h
  have hl := h.literalChar c hm
  rw [literalChar_of_not_ascii hc] at hl
  nomatch hl

lemma not_hasShape_of_signed {letter sign : Char} {radix : Nat} (hl : (letter, radix) ∈ radixLetters)
    (hs : sign = '+' ∨ sign = '-') (ds : List Char) : ¬ HasShape ('0' :: letter :: sign :: ds) := by
  intro h
  obtain ⟨n, -, letter, radix, es, hm, hn, h⟩ := h.isPrefixed hl
  cases h
  have hr := radix_le hm
  have hd := ((numeral_iff hr).mp hn).2.1 sign (.head _)
  have hv : digitValue sign = 36 := by rcases hs with rfl | rfl <;> rfl
  omega

theorem readAs_parseChars (D : Text.Digits) (cs : List Char) : ReadAs cs (parseChars D cs) where
  empty h := by rw [h]; rfl
  integer z h hl hh := by
    have hz : fits z = true := fits_iff.mpr ⟨hl, hh⟩
    exact ⟨_, toInt_ofInt_of_fits hz, h.parseChars hz⟩
  prefixed m h hh := by
    have hm : fits m = true := fits_iff.mpr ⟨by omega, by omega⟩
    exact ⟨_, toInt_ofInt_of_fits hm, h.parseChars hm⟩
  literal := isNaN_parseChars_of_literal
  other := eq_nan_of_not_hasShape
  beyond m h hl := eq_nan_of_not_hasShape (not_hasShape_of_beyond h hl)
  foreign c hm hc := eq_nan_of_not_hasShape (not_hasShape_of_foreign hm hc)
  signed letter radix sign ds hl hs h := by
    rw [h]
    exact eq_nan_of_not_hasShape (not_hasShape_of_signed hl hs ds)

/-- Digits, of ASCII or not, are a number only where all of them are of ASCII. -/
lemma isNumeric_digits_iff {s : String} (D : Text.Digits) :
    (s ≠ "" ∧ (∀ c ∈ s.toList, D.has c = true) ∧ Domain.isNumeric s = true) ↔
      s ≠ "" ∧ ∀ c ∈ s.toList, c.isDigit = true := by
  refine and_congr_right fun hn => ⟨?_, fun h => ?_⟩
  · rintro ⟨hd, hs⟩ c hc
    have hshape : HasShape s.toList := hasShape_of_parseChars (by
      simpa [Domain.isNumeric, parse, D.trimChars_eq hd] using hs)
    rw [← D.ascii c (by_contra fun h => not_hasShape_of_foreign hc (by omega) hshape)]
    exact hd c hc
  · have hd : ∀ c ∈ s.toList, D.has c = true := fun c hc => D.has_of_isDigit (h c hc)
    have hne : s.toList ≠ [] := by simpa using hn
    have hm : IsDecimal s.toList := ⟨[], false, s.toList, [], .absent, .whole hne h, .absent, by simp⟩
    have hx := isNaN_parseChars_of_literal (D := .unicode) (.inl hm)
    exact ⟨hd, by simp [Domain.isNumeric, parse, D.trimChars_eq hd, hx]⟩

end Number

lemma SelectorType.accepts_integer_iff {s : String} :
    integer.accepts s = true ↔ s ≠ "" ∧ ∀ c ∈ s.toList, c.isDigit = true := by
  rw [← Number.isNumeric_digits_iff .unicode]
  simp [accepts, Number.spell_iff, and_assoc]

/-- A text is read by the shape of what it has between white space. An integer column takes the texts of digits
that are numbers, whichever digits are meant: those of ASCII. -/
theorem Number.parse_by_shape (s : String) :
    (∀ cs, Text.IsCore cs s.toList → ReadAs cs (parse s)) ∧
    ∀ sel : Selector, sel.domain = .type .integer →
      (sel.accepts s = true ↔ s ≠ "" ∧ ∀ c ∈ s.toList, c.isDigit = true) ∧
      ∀ D : Text.Digits, sel.accepts s = true ↔
        s ≠ "" ∧ (∀ c ∈ s.toList, D.has c = true) ∧ Domain.isNumeric s = true := by
  refine ⟨fun cs hs => ?_, fun sel hs => ?_⟩
  · rw [parse, hs.eq]
    exact readAs_parseChars .unicode cs
  · have ha : sel.accepts s = true ↔ s ≠ "" ∧ ∀ c ∈ s.toList, c.isDigit = true := by
      rw [Selector.accepts, hs]
      exact SelectorType.accepts_integer_iff
    exact ⟨ha, fun D => ha.trans (isNumeric_digits_iff D).symm⟩

/-- Both ends of the range, an integer past it, a sign behind a radix, and digits that no column takes. -/
theorem Number.parse_by_shape_ends :
    (∃ n : Int64, n.toInt = -2 ^ 63 ∧ parse " -09223372036854775808\n" = .int n) ∧
      (∃ n : Int64, n.toInt = 2 ^ 63 - 1 ∧ parse "0x7fffFFFFffffFFFF" = .int n) ∧
      (parse "9223372036854775808").isNaN = false ∧ parse "0x8000000000000000" = .float .nan ∧
      parse "0x+5" = .float .nan ∧ parse "٣" = .float .nan ∧
      (Selector.record { domain := .type .integer }).accepts "007" = true ∧
      Text.Digits.unicode.has '٣' = true ∧
      (Selector.record { domain := .type .integer }).accepts "٣" = false := by
  have hread (s : String) : ReadAs (Text.trimChars s.toList) (parse s) :=
    (parse_by_shape s).1 _ (Text.isCore_trimChars _)
  refine ⟨?least, ?greatest, ?past, ?beyond, ?signed, ?arabic, ?digits, by decide, ?column⟩
  case least =>
    have h : integer? (Text.trimChars " -09223372036854775808\n".toList) = some (-2 ^ 63) := by decide +kernel
    exact (hread _).integer _ (integer?_eq_some_iff.mp h) (by decide) (by decide)
  case greatest =>
    have h : inRadix? (Text.trimChars "0x7fffFFFFffffFFFF".toList) = some (2 ^ 63 - 1) := by decide +kernel
    exact (hread _).prefixed _ (inRadix?_eq_some_iff.mp h) (by decide)
  case past =>
    have h : integer? (Text.trimChars "9223372036854775808".toList) = some (2 ^ 63) := by decide +kernel
    exact (hread _).literal (.inl (integer?_eq_some_iff.mp h).isDecimal)
  case beyond =>
    have h : inRadix? (Text.trimChars "0x8000000000000000".toList) = some (2 ^ 63) := by decide +kernel
    exact (hread _).beyond _ (inRadix?_eq_some_iff.mp h) le_rfl
  case signed => exact (hread _).signed 'x' 16 '+' ['5'] (by decide) (.inl rfl) (by decide +kernel)
  case arabic => exact (hread _).foreign '٣' (by decide +kernel) (by decide)
  case digits => exact ((parse_by_shape _).2 _ rfl).1.mpr ⟨by decide, List.all_eq_true.mp (by decide)⟩
  case column =>
    have h := ((parse_by_shape "٣").2 (Selector.record { domain := .type .integer }) rfl).2 .unicode
    have hn : Domain.isNumeric "٣" = false := by decide +kernel
    rw [← Bool.not_eq_true, h, hn]
    exact fun h => nomatch h.2.2

end Listing
