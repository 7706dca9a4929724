import Listing.Proofs.BuiltIn
import Listing.Proofs.Numbers
import Listing.Proofs.Rounding

/-! Integers as numbers: exact up to the greatest of 64 bits, and rounded past it if they are written in decimal
digits. In the digits of another radix nothing is read past it. -/
namespace Listing

namespace Number
variable {cs : List Char} {s : String} {n : Nat}

/-- The real that a number stands for, if it is finite. -/
def value? : Number → Option ℚ
  | int i => some i.toInt
  | float x => x.value?

/-- What is bound for an integer that is not negative: itself where it fits, the nearest floating-point value
elsewhere. So the integer is kept wherever any number of either kind has its value. -/
structure BoundFor (n : Nat) (x : Number) : Prop where
  int : n < 2 ^ 63 → ∃ i : Int64, i.toInt = n ∧ x = .int i
  float : 2 ^ 63 ≤ n → ∃ y, x = .float y ∧ Binary64.IsResult n y
  finite : x.value?.isSome = true ↔ n < 2 ^ 1024 - 2 ^ 970
  exact : x.value? = some (n : ℚ) ↔ n < 2 ^ 63 ∨ n < 2 ^ 1024 - 2 ^ 970 ∧ Binary64.IsShort n
  kept : ∀ y : Number, y.value? = some (n : ℚ) → x.value? = some (n : ℚ)

/-! ### Integers that do not fit -/

lemma fits_natCast_iff : fits (n : Int) = true ↔ n < 2 ^ 63 := by
  rw [fits_iff]
  omega

lemma ofInt_of_lt (h : n < 2 ^ 63) : ofInt n = .int (.ofInt n) := if_pos (fits_natCast_iff.mpr h)

lemma ofInt_of_le (h : 2 ^ 63 ≤ n) : ofInt n = .float (.ofRatio false n 1) := by
  have hf : ¬ fits (n : Int) = true := fits_natCast_iff.not.mpr (not_lt.mpr h)
  have hs : ¬ (n : Int) < 0 := by omega
  simp [ofInt, hf, Binary64.ofInt, hs]

lemma cast_two_pow_sub {a b : Nat} (h : b ≤ a) : ((2 ^ a - 2 ^ b : Nat) : ℚ) = 2 ^ a - 2 ^ b := by
  rw [Nat.cast_sub (Nat.pow_le_pow_right two_pos h)]
  push_cast
  rfl

lemma lt_overflow_iff : (n : ℚ) < 2 ^ 1024 - 2 ^ 970 ↔ n < 2 ^ 1024 - 2 ^ 970 := by
  rw [← cast_two_pow_sub (by omega), Nat.cast_lt]

/-- What fits is far from infinity. -/
lemma lt_overflow_of_lt (h : n < 2 ^ 63) : n < 2 ^ 1024 - 2 ^ 970 := h.trans (by decide +kernel)

lemma value?_ofInt_of_lt (h : n < 2 ^ 63) : (ofInt n).value? = some (n : ℚ) := by
  have hi : (Int64.ofInt n).toInt = n := toInt_ofInt_of_fits (fits_natCast_iff.mpr h)
  rw [ofInt_of_lt h, value?, hi, Int.cast_natCast]

/-- The integers, not negative, that some number of either kind is. -/
lemma lt_or_isShort_of_value? {x : Number} {n : Nat} (h : x.value? = some (n : ℚ)) :
    n < 2 ^ 63 ∨ n < 2 ^ 1024 - 2 ^ 970 ∧ Binary64.IsShort n := by
  cases x with
  | int i =>
    have hi : (i.toInt : ℚ) = n := Option.some.inj h
    have hi : i.toInt = n := by exact_mod_cast hi
    have := Int64.toInt_lt i
    omega
  | float x =>
    cases x with
    | nan | infinite => nomatch h
    | finite negative g =>
      have hg : (if negative then -Binary64.value g else Binary64.value g) = n := Option.some.inj h
      cases negative with
      | false =>
        have hg : Binary64.value g = n := hg
        exact .inr ⟨lt_overflow_iff.mp (hg ▸ Binary64.value_lt g.isLt), Binary64.isShort_of_value_eq hg⟩
      | true =>
        have hg : -Binary64.value g = n := hg
        have hv : 0 ≤ Binary64.value g := by
          unfold Binary64.value
          positivity
        have hn : (n : ℚ) ≤ 0 := by linarith
        have hn : n ≤ 0 := by exact_mod_cast hn
        omega

lemma isResult_ofNat (n : Nat) : Binary64.IsResult n (.ofRatio false n 1) := by
  have hr := Binary64.isResult_ofRatio n one_ne_zero
  rwa [Nat.cast_one, div_one] at hr

lemma value?_ofInt_iff : (ofInt n).value? = some (n : ℚ) ↔
    n < 2 ^ 63 ∨ n < 2 ^ 1024 - 2 ^ 970 ∧ Binary64.IsShort n := by
  rcases Nat.lt_or_ge n (2 ^ 63) with h | h
  · exact iff_of_true (value?_ofInt_of_lt h) (.inl h)
  · rw [ofInt_of_le h, value?, Binary64.value?_ofRatio_iff (by omega), lt_overflow_iff]
    exact (or_iff_right (not_lt.mpr h)).symm

lemma isSome_value?_ofInt_iff : (ofInt n).value?.isSome = true ↔ n < 2 ^ 1024 - 2 ^ 970 := by
  rcases Nat.lt_or_ge n (2 ^ 63) with h | h
  · exact iff_of_true (by rw [value?_ofInt_of_lt h]; rfl) (lt_overflow_of_lt h)
  · rw [ofInt_of_le h, value?, ← lt_overflow_iff]
    have hr := isResult_ofNat n
    generalize Binary64.ofRatio false n 1 = x at hr
    cases hr with
    | finite _ hx => exact iff_of_true rfl hx
    | infinite hx => exact iff_of_false Bool.false_ne_true (not_lt.mpr hx)

theorem boundFor_ofInt (n : Nat) : BoundFor n (ofInt n) where
  int h := ⟨_, toInt_ofInt_of_fits (fits_natCast_iff.mpr h), ofInt_of_lt h⟩
  float h := ⟨_, ofInt_of_le h, isResult_ofNat n⟩
  finite := isSome_value?_ofInt_iff
  exact := value?_ofInt_iff
  kept _ hy := value?_ofInt_iff.mpr (lt_or_isShort_of_value? hy)

/-! ### Digits -/

lemma isBlank_of_literalChar {c : Char} (h : literalChar c = true) : Text.isBlank c = false := by
  by_cases hc : c.toNat < 128
  · have hb : literalChar c = true → Text.isBlank c = false := of_ascii c hc (by decide +kernel)
    exact hb h
  · rw [literalChar_of_not_ascii (by omega)] at h
    nomatch h

lemma parse_eq_parseChars (h : ∀ c ∈ s.toList, literalChar c = true) : parse s = parseChars .unicode s.toList := by
  rw [parse, Text.trimChars_eq_self fun c hc => isBlank_of_literalChar (h c hc)]

lemma Numeral.isInteger (h : Numeral 10 cs n) : IsInteger cs n :=
  ⟨[], false, cs, n, .absent, h, rfl, rfl⟩

lemma decimal?_of_numeral (h : Numeral 10 cs n) (hn : n ≠ 0) : decimal? cs = some (.ofRatio false n 1) := by
  obtain ⟨hd, rfl⟩ := numeral_ten_iff.mp h
  obtain ⟨hne, hd⟩ := isDigits_iff.mp hd
  have hs : splitSign cs = (false, cs) :=
    splitSign_append .absent fun c hc => ne_sign_of_isDigit (hd c (List.mem_of_head? hc))
  have ht : cs.takeWhile Text.Digits.usual.has = cs := List.takeWhile_eq_self_iff.mpr hd
  have hr : cs.dropWhile Text.Digits.usual.has = [] := List.dropWhile_eq_nil_iff.mpr hd
  have hm : splitMantissa .usual cs = (cs, [], []) := by
    rw [splitMantissa, ht, hr]
    rfl
  simp [decimal?, hs, hm, exponent?, hne, Binary64.ofDecimal, hn, Binary64.decimalReach]

lemma parse_of_numeral (h : Numeral 10 s.toList n) : parse s = ofInt n := by
  have hi := h.isInteger
  rw [parse_eq_parseChars fun c hc => literalChar_of_decimalChar (hi.decimalChar c hc)]
  rcases Nat.lt_or_ge n (2 ^ 63) with hl | hl
  · rw [hi.parseChars (fits_natCast_iff.mpr hl), ofInt_of_lt hl]
  · have hn : (integer? s.toList).filter fits = none := by
      rw [integer?_eq_some_iff.mpr hi]
      simpa using fits_natCast_iff.not.mpr (not_lt.mpr hl)
    have hd := decimal?_of_numeral h (by omega)
    have hp := hi.isDecimal.pattern .unicode
    rw [ofInt_of_le hl]
    cases hs : s.toList with
    | nil =>
      rw [hs] at hd
      nomatch hd
    | cons c cs =>
      rw [hs] at hn hd hp
      simp [parseChars, hn, hd, hp]

lemma parse_of_isPrefixed (h : IsPrefixed s.toList n) :
    parse s = if n < 2 ^ 63 then ofInt n else .float .nan := by
  rw [parse_eq_parseChars h.literalChar]
  split
  · rename_i hl
    rw [h.parseChars (fits_natCast_iff.mpr hl), ofInt_of_lt hl]
  · rename_i hl
    exact eq_nan_of_not_hasShape (not_hasShape_of_beyond h (not_lt.mp hl))

lemma isNaN_ofInt (z : Int) : (ofInt z).isNaN = false := by
  unfold ofInt
  split
  · rfl
  · exact Binary64.isNaN_ofRatio _ _ _

lemma isNaN_toBinary64 (x : Number) : x.toBinary64.isNaN = x.isNaN := by
  cases x with
  | int => exact Binary64.isNaN_ofRatio _ _ _
  | float => rfl

/-- In decimal digits every integer is a number, exact where it fits. With the letter of a radix it is the same
number where it fits, and no number elsewhere. So the spellings agree up to the greatest integer of 64 bits. -/
theorem parse_spellings (n : Nat) :
    Numeral 10 (Nat.toDigits 10 n) n ∧
    (∀ p ∈ radixLetters, IsPrefixed ('0' :: p.1 :: Nat.toDigits p.2 n) n) ∧
    ∀ s t, Numeral 10 s.toList n → IsPrefixed t.toList n →
      (parse s).isNaN = false ∧
      (n < 2 ^ 63 → parse t = parse s) ∧
      (2 ^ 63 ≤ n → parse t = .float .nan) ∧
      ((parse t).toBinary64 = (parse s).toBinary64 ↔ n < 2 ^ 63) ∧
      ∀ sel : Selector, sel.domain = .type .number →
        sel.accepts s = true ∧ (sel.accepts t = true ↔ n < 2 ^ 63) := by
  have hr : ∀ p ∈ radixLetters, 1 < p.2 := by decide
  refine ⟨numeral_toDigits (by decide) n, fun p hp => ?_, fun s t hs ht => ?_⟩
  · exact ⟨p.1, p.2, _, hp, numeral_toDigits (hr p hp) n, rfl⟩
  have hs : parse s = ofInt n := parse_of_numeral hs
  have ht : parse t = if n < 2 ^ 63 then ofInt n else .float .nan := parse_of_isPrefixed ht
  have hn : (ofInt n).isNaN = false := isNaN_ofInt n
  have ha (sel : Selector) (hd : sel.domain = .type .number) (s : String) :
      sel.accepts s = !(parse s).isNaN := by
    rw [Selector.accepts, hd]
    rfl
  rw [hs, ht]
  refine ⟨hn, fun h => if_pos h, fun h => if_neg (not_lt.mpr h), ?_, fun sel hd => ?_⟩
  · split
    · rename_i h
      exact iff_of_true rfl h
    · rename_i h
      refine iff_of_false (fun he => ?_) h
      have hx := isNaN_toBinary64 (ofInt n)
      rw [← he, hn] at hx
      exact absurd hx.symm Bool.false_ne_true
  · rw [ha sel hd, ha sel hd, hs, ht, hn]
    refine ⟨rfl, ?_⟩
    split
    · rename_i h
      exact iff_of_true (by rw [hn]; rfl) h
    · rename_i h
      exact iff_of_false (by decide) h

/-- The greatest integer of 64 bits in three spellings, and the next one in two. -/
theorem parse_spellings_ends :
    parse "0x7FFFffffFFFFffff" = parse "9223372036854775807" ∧
      parse "0o777777777777777777777" = parse "9223372036854775807" ∧
      (parse "9223372036854775808").isNaN = false ∧ parse "0x8000000000000000" = .float .nan ∧
      (Selector.record { domain := .type .number }).accepts "0x8000000000000000" = false := by
  have hs : Numeral 10 "9223372036854775807".toList (2 ^ 63 - 1) := numeral_ten_iff.mpr (by decide +kernel)
  have hx : IsPrefixed "0x7FFFffffFFFFffff".toList (2 ^ 63 - 1) := inRadix?_eq_some_iff.mp (by decide +kernel)
  have ho : IsPrefixed "0o777777777777777777777".toList (2 ^ 63 - 1) := inRadix?_eq_some_iff.mp (by decide +kernel)
  have hs' : Numeral 10 "9223372036854775808".toList (2 ^ 63) := numeral_ten_iff.mpr (by decide +kernel)
  have hx' : IsPrefixed "0x8000000000000000".toList (2 ^ 63) := inRadix?_eq_some_iff.mp (by decide +kernel)
  obtain ⟨-, -, hlast⟩ := parse_spellings (2 ^ 63 - 1)
  obtain ⟨-, -, hnext⟩ := parse_spellings (2 ^ 63)
  obtain ⟨hn, -, hnan, -, ha⟩ := hnext _ _ hs' hx'
  refine ⟨(hlast _ _ hs hx).2.1 (by decide), (hlast _ _ hs ho).2.1 (by decide), hn, hnan le_rfl, ?_⟩
  exact Bool.eq_false_iff.mpr ((ha _ rfl).2.not.mpr (by decide))

/-- One past the greatest integer of 64 bits, a number column takes the decimal digits and not the others, though
they denote the same integer. -/
theorem parse_prefixed_beyond :
    let column : Selector := .record { domain := .type .number }
    Numeral 10 "9223372036854775808".toList (2 ^ 63) ∧ IsPrefixed "0x8000000000000000".toList (2 ^ 63) ∧
      parse "0x8000000000000000" = .float .nan ∧ (parse "9223372036854775808").value? = some (2 ^ 63) ∧
      column.accepts "0x8000000000000000" = false ∧ column.accepts "9223372036854775808" = true := by
  have hs : Numeral 10 "9223372036854775808".toList (2 ^ 63) := numeral_ten_iff.mpr (by decide +kernel)
  have hx : IsPrefixed "0x8000000000000000".toList (2 ^ 63) := inRadix?_eq_some_iff.mp (by decide +kernel)
  refine ⟨hs, hx, parse_of_isPrefixed hx, ?_, by decide +kernel, by decide +kernel⟩
  have hv := (boundFor_ofInt (2 ^ 63)).exact.mpr (.inr ⟨by decide +kernel, 1, 63, by decide, by decide⟩)
  rw [parse_of_numeral hs, hv]
  norm_cast

end Number

variable {ss : Selectors} {c : Comparison} {sel : Selector} {n : Nat}

/-- An integer column takes the decimal digits of natural numbers. -/
lemma SelectorType.accepts_integer_iff_numeral {s : String} :
    integer.accepts s = true ↔ ∃ n, Number.Numeral 10 s.toList n := by
  simp only [accepts_integer_iff, Number.numeral_ten_iff, Number.isDigits_iff, ne_eq, String.toList_eq_nil_iff,
    exists_and_left, exists_eq', and_true]

lemma Selectors.coerce_of_numeral (hs : ss.get? c.selector = some sel) (hd : sel.domain = .type .integer)
    (hn : Number.Numeral 10 c.firstOperand.toList n) : ss.coerce c false = .number (.ofInt n) := by
  simp [coerce, domainOf, hs, hd, Domain.single, SelectorType.single, Number.parse_of_numeral hn]

/-- An integer column takes texts of decimal digits of any length, and binds the integer that they denote: exactly
wherever a number of either kind has this value, and rounded elsewhere. -/
theorem Selectors.coerce_integer (hs : ss.get? c.selector = some sel) (hd : sel.domain = .type .integer)
    (ha : sel.accepts c.firstOperand = true) :
    ∃ n x, Number.Numeral 10 c.firstOperand.toList n ∧ ss.coerce c false = .number x ∧ x.isNaN = false ∧
      x.BoundFor n := by
  rw [Selector.accepts, hd] at ha
  obtain ⟨n, hn⟩ := SelectorType.accepts_integer_iff_numeral.mp ha
  exact ⟨n, _, hn, coerce_of_numeral hs hd hn, Number.isNaN_ofInt _, Number.boundFor_ofInt _⟩

/-- The greatest integer of 64 bits is bound as it is, and so is a greater one that has few bits. -/
theorem Selectors.coerce_integer_users :
    let ss := Config.users.selectors
    let c : Comparison := ⟨"points", "=le=", ["0009223372036854775807"]⟩
    let d : Comparison := ⟨"points", "==", ["18446744073709551616"]⟩
    let points : Selector := .record { domain := .type .integer }
    ss.get? "points" = some points ∧ points.domain = .type .integer ∧ points.accepts c.firstOperand = true ∧
      points.accepts d.firstOperand = true ∧ ss.coerce c false = .number (.int (2 ^ 63 - 1)) ∧
      ∃ x, ss.coerce d false = .number x ∧ x.value? = some (2 ^ 64) := by
  intro ss c d points
  have hc : points.accepts c.firstOperand = true := by decide +kernel
  have hd : points.accepts d.firstOperand = true := by decide +kernel
  refine ⟨rfl, rfl, hc, hd, ?_, ?_⟩
  · obtain ⟨n, x, hn, hx, -, hb⟩ := @coerce_integer ss c points rfl rfl hc
    obtain ⟨-, rfl⟩ := Number.numeral_ten_iff.mp hn
    obtain ⟨i, hi, rfl⟩ := hb.int (by decide +kernel)
    rw [hx]
    have hl : i = 2 ^ 63 - 1 := Int64.toInt_inj.mp (hi.trans (by decide +kernel))
    rw [hl]
  · obtain ⟨n, x, hn, hx, -, hb⟩ := @coerce_integer ss d points rfl rfl hd
    have hn : n = 2 ^ 64 := by
      obtain ⟨-, rfl⟩ := Number.numeral_ten_iff.mp hn
      decide +kernel
    subst hn
    refine ⟨x, hx, ?_⟩
    rw [hb.exact.mpr (.inr ⟨by decide +kernel, 1, 64, by decide, by decide⟩)]
    norm_cast

/-- The second integer that has more than 64 bits with its sign is bound as the one before it, and a long text is
bound as infinity. -/
theorem Selectors.coerce_integer_rounds :
    let ss := Config.users.selectors
    let c : Comparison := ⟨"points", "==", ["9223372036854775809"]⟩
    let d : Comparison := ⟨"points", "==", [.ofList ('1' :: List.replicate 309 '0')]⟩
    let points : Selector := .record { domain := .type .integer }
    ss.get? "points" = some points ∧ points.domain = .type .integer ∧ points.accepts c.firstOperand = true ∧
      points.accepts d.firstOperand = true ∧ Number.Numeral 10 c.firstOperand.toList 9223372036854775809 ∧
      Number.Numeral 10 d.firstOperand.toList (10 ^ 309) ∧
      (∃ x, ss.coerce c false = .number x ∧ x.value? = some 9223372036854775808) ∧
      ss.coerce d false = .number (.float (.infinite false)) := by
  intro ss c d points
  have hc : Number.Numeral 10 c.firstOperand.toList 9223372036854775809 :=
    Number.numeral_ten_iff.mpr (by decide +kernel)
  have hd : Number.Numeral 10 d.firstOperand.toList (10 ^ 309) := by
    have hl : d.firstOperand.toList = '1' :: List.replicate 309 '0' := String.toList_ofList
    rw [hl]
    exact Number.numeral_ten_iff.mpr (by decide +kernel)
  have hc' : ss.coerce c false = .number (.ofInt (9223372036854775809 : Nat)) := coerce_of_numeral rfl rfl hc
  have hd' : ss.coerce d false = .number (.ofInt (10 ^ 309 : Nat)) := coerce_of_numeral rfl rfl hd
  have ha {s : String} {n : Nat} (h : Number.Numeral 10 s.toList n) : points.accepts s = true :=
    SelectorType.accepts_integer_iff_numeral.mpr ⟨n, h⟩
  refine ⟨rfl, rfl, ha hc, ha hd, hc, hd, ⟨_, hc', ?_⟩, ?_⟩
  · have hx : Binary64.ofRatio false 9223372036854775809 1 =
        .finite false ⟨1086 <<< 52, by decide⟩ := by decide +kernel
    have hv := Binary64.value_magnitude (e := 11) (q := 2 ^ 52) (by decide) (by decide) (.inr le_rfl)
    rw [Number.ofInt_of_le (by decide), hx, Number.value?, Binary64.value?, if_neg Bool.false_ne_true]
    exact congrArg some (hv.trans (by norm_num))
  · have hx : Binary64.ofRatio false (10 ^ 309) 1 = .infinite false := by decide +kernel
    rw [hd', Number.ofInt_of_le (by decide +kernel), hx]

end Listing
