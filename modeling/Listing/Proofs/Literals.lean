import Listing.Number.Parser
import Mathlib.Data.List.Induction
import Mathlib.Data.List.TakeWhile
import Mathlib.Tactic.Lemma

/-! The shapes in which numbers are written, and what is denoted by digits. Each reader takes the texts of one
shape and no others, and the pattern before it takes these and perhaps more. -/
namespace Listing.Number

/-! ### Shapes -/

/-- A digit of a radix and its value. Letters are digits in either case. -/
def IsDigit (radix : Nat) (c : Char) (d : Nat) : Prop :=
  d < radix ∧ (c = Nat.digitChar d ∨ c = (Nat.digitChar d).toUpper)

/-- One or more digits and the number that they denote: a digit counts `radix` times as much as the next. -/
inductive Numeral (radix : Nat) : List Char → Nat → Prop
  | digit {c : Char} {d : Nat} (h : IsDigit radix c d) : Numeral radix [c] d
  | snoc {cs : List Char} {n : Nat} {c : Char} {d : Nat} (hn : Numeral radix cs n) (h : IsDigit radix c d) :
      Numeral radix (cs ++ [c]) (n * radix + d)

/-- No sign or one, and whether it makes negative. -/
inductive Sign : List Char → Bool → Prop
  | absent : Sign [] false
  | plus : Sign ['+'] false
  | minus : Sign ['-'] true

/-- An optional sign and decimal digits. -/
def IsInteger (cs : List Char) (z : Int) : Prop :=
  ∃ sign negative ds n, Sign sign negative ∧ Numeral 10 ds n ∧ cs = sign ++ ds ∧
    z = if negative then -(n : Int) else n

def radixLetters : List (Char × Nat) := [('x', 16), ('X', 16), ('o', 8), ('O', 8), ('b', 2), ('B', 2)]

/-- A zero, a letter that names a radix, and digits of this radix. -/
def IsPrefixed (cs : List Char) (n : Nat) : Prop :=
  ∃ letter radix ds, (letter, radix) ∈ radixLetters ∧ Numeral radix ds n ∧ cs = '0' :: letter :: ds

/-- Digits with an optional point, on at least one side of it. -/
inductive Mantissa : List Char → Prop
  | whole {ds : List Char} (hn : ds ≠ []) (hd : ∀ c ∈ ds, c.isDigit = true) : Mantissa ds
  | point {ds es : List Char} (hn : ds ++ es ≠ []) (hd : ∀ c ∈ ds ++ es, c.isDigit = true) :
      Mantissa (ds ++ '.' :: es)

/-- Nothing, or the letter `e` and an integer. -/
inductive Exponent : List Char → Prop
  | absent : Exponent []
  | present {e : Char} {cs : List Char} {z : Int} (he : e = 'e' ∨ e = 'E') (h : IsInteger cs z) :
      Exponent (e :: cs)

def IsDecimal (cs : List Char) : Prop :=
  ∃ sign negative mantissa exponent,
    Sign sign negative ∧ Mantissa mantissa ∧ Exponent exponent ∧ cs = sign ++ (mantissa ++ exponent)

def IsInfinity (cs : List Char) : Prop :=
  ∃ sign negative, Sign sign negative ∧ cs = sign ++ "Infinity".toList

/-! ### Digits -/

lemma digitValue_lt_ten_iff {c : Char} : digitValue c < 10 ↔ c.isDigit = true := by
  unfold digitValue
  by_cases h : c.isDigit = true
  · have hn : 48 ≤ c.toNat ∧ c.toNat ≤ 57 := Char.isDigit_iff_toNat.mp h
    simp only [h, if_true, iff_true]
    exact (by omega : c.toNat - 48 < 10)
  · rw [if_neg h]
    split_ifs <;> simp [h]

/-- What holds of the first 128 characters, one by one, holds of a character of ASCII. -/
@[elab_as_elim]
lemma of_ascii {P : Char → Prop} (c : Char) (hc : c.toNat < 128) (h : ∀ n < 128, P (.ofNat n)) : P c := by
  have hn := h c.toNat hc
  rwa [Char.ofNat_toNat] at hn

lemma digitValue_of_not_ascii {c : Char} (h : 128 ≤ c.toNat) : digitValue c = 36 := by
  have hn (d : Char) (hd : d.toNat < 128) : ¬ c ≤ d := fun hc => by
    have hl : c.toNat ≤ d.toNat := hc
    omega
  have hd : ¬ c.isDigit = true := fun hd => by
    have hl : c.toNat ≤ 57 := (Char.isDigit_iff_toNat.mp hd).2
    omega
  simp [digitValue, hd, hn 'z' (by decide), hn 'Z' (by decide)]

lemma isDigit_iff {radix d : Nat} {c : Char} (hr : radix ≤ 16) :
    IsDigit radix c d ↔ d < radix ∧ digitValue c = d := by
  have hvalue : ∀ d < 16, digitValue (Nat.digitChar d) = d ∧ digitValue (Nat.digitChar d).toUpper = d := by decide
  have hchar (hc : c.toNat < 128) : digitValue c < 16 → c = Nat.digitChar (digitValue c) ∨
      c = (Nat.digitChar (digitValue c)).toUpper := of_ascii c hc (by decide +kernel)
  constructor
  · rintro ⟨hd, rfl | rfl⟩
    · exact ⟨hd, (hvalue d (by omega)).1⟩
    · exact ⟨hd, (hvalue d (by omega)).2⟩
  · rintro ⟨hd, rfl⟩
    by_cases h : c.toNat < 128
    · exact ⟨hd, hchar h (by omega)⟩
    · rw [digitValue_of_not_ascii (by omega)] at hd
      omega

lemma ofDigits_append (radix : Nat) (cs : List Char) (c : Char) :
    ofDigits radix (cs ++ [c]) = ofDigits radix cs * radix + digitValue c := by
  simp [ofDigits]

/-- Reading digits from left to right gives the number that they denote. -/
lemma numeral_iff {radix n : Nat} {cs : List Char} (hr : radix ≤ 16) :
    Numeral radix cs n ↔ cs ≠ [] ∧ (∀ c ∈ cs, digitValue c < radix) ∧ ofDigits radix cs = n := by
  constructor
  · intro h
    induction h with
    | digit h =>
      obtain ⟨hd, rfl⟩ := (isDigit_iff hr).mp h
      simpa [ofDigits] using hd
    | snoc _ h ih =>
      obtain ⟨hd, rfl⟩ := (isDigit_iff hr).mp h
      obtain ⟨-, hds, rfl⟩ := ih
      refine ⟨by simp, fun c hc => ?_, ofDigits_append _ _ _⟩
      rcases List.mem_append.mp hc with hc | hc
      · exact hds c hc
      · rwa [List.mem_singleton.mp hc]
  · rintro ⟨hn, hd, rfl⟩
    induction cs using List.reverseRecOn with
    | nil => exact absurd rfl hn
    | append_singleton cs c ih =>
      have hc : IsDigit radix c (digitValue c) := (isDigit_iff hr).mpr ⟨hd c (by simp), rfl⟩
      by_cases he : cs = []
      · subst he
        simpa [ofDigits] using Numeral.digit hc
      · rw [ofDigits_append]
        exact .snoc (ih he fun c hc => hd c (List.mem_append_left _ hc)) hc

lemma digitsValue_eq_ofDigits {cs : List Char} (h : ∀ c ∈ cs, c.isDigit = true) :
    digitsValue cs = ofDigits 10 cs := by
  induction cs using List.reverseRecOn with
  | nil => rfl
  | append_singleton cs c ih =>
    have hc : digitValue c = c.toNat - '0'.toNat := by simp [digitValue, h c (by simp)]
    have hcs := ih fun c hc => h c (List.mem_append_left _ hc)
    rw [digitsValue] at hcs
    rw [digitsValue, Nat.ofDigitChars_append, hcs, ofDigits_append, hc, Nat.mul_comm]
    rfl

lemma spell_iff {D : Text.Digits} {cs : List Char} : D.spell cs = true ↔ cs ≠ [] ∧ ∀ c ∈ cs, D.has c = true := by
  simp [Text.Digits.spell]

lemma isDigits_iff {cs : List Char} : isDigits cs = true ↔ cs ≠ [] ∧ ∀ c ∈ cs, c.isDigit = true := spell_iff

lemma numeral_ten_iff {n : Nat} {cs : List Char} :
    Numeral 10 cs n ↔ isDigits cs = true ∧ digitsValue cs = n := by
  simp only [numeral_iff (by decide : 10 ≤ 16), digitValue_lt_ten_iff, isDigits_iff, and_assoc]
  refine and_congr_right fun _ => and_congr_right fun h => ?_
  rw [digitsValue_eq_ofDigits h]

/-- Every natural number has digits in every radix. -/
lemma numeral_toDigits {radix : Nat} (hr : 1 < radix) (n : Nat) : Numeral radix (Nat.toDigits radix n) n := by
  induction n using Nat.strongRecOn with
  | ind n ih =>
    rw [Nat.toDigits_eq_if hr]
    split
    · rename_i hl
      exact .digit ⟨hl, .inl rfl⟩
    · rename_i hl
      have hs := Numeral.snoc (ih (n / radix) (Nat.div_lt_self (by omega) hr))
        (c := Nat.digitChar (n % radix)) ⟨Nat.mod_lt n (by omega), .inl rfl⟩
      rwa [Nat.div_add_mod'] at hs

/-- Zero apart, no number has digits that start with a zero. -/
lemma head?_toDigits {n : Nat} (hn : 0 < n) : (Nat.toDigits 10 n).head? ≠ some '0' := by
  induction n using Nat.strongRecOn with
  | ind n ih =>
    rw [Nat.toDigits_eq_if (by decide)]
    split
    · rename_i hl
      have hd : ∀ d < 10, 0 < d → [Nat.digitChar d].head? ≠ some '0' := by decide
      exact hd n hl hn
    · rename_i hl
      have hi := ih (n / 10) (by omega) (by omega)
      obtain ⟨c, cs, hc⟩ := List.exists_cons_of_ne_nil (Nat.toDigits_ne_nil (b := 10) (n := n / 10))
      rw [hc] at hi ⊢
      exact hi

/-! ### Signs -/

lemma exists_sign (cs : List Char) : ∃ sign, Sign sign (splitSign cs).1 ∧ cs = sign ++ (splitSign cs).2 := by
  unfold splitSign
  split
  · exact ⟨_, .minus, rfl⟩
  · exact ⟨_, .plus, rfl⟩
  · exact ⟨_, .absent, rfl⟩

/-- One sign is taken away, and what follows it is left as it is. -/
lemma splitSign_append {sign cs : List Char} {negative : Bool} (h : Sign sign negative)
    (hc : ∀ c ∈ cs.head?, c ≠ '+' ∧ c ≠ '-') : splitSign (sign ++ cs) = (negative, cs) := by
  cases h with
  | plus | minus => rfl
  | absent =>
    rw [List.nil_append]
    unfold splitSign
    split
    · exact absurd rfl (hc '-' rfl).2
    · exact absurd rfl (hc '+' rfl).1
    · rfl

lemma ne_sign_of_isDigit {c : Char} (h : c.isDigit = true) : c ≠ '+' ∧ c ≠ '-' := by
  constructor <;> rintro rfl <;> nomatch h

/-! ### Recognizers -/

lemma integer?_eq_some_iff {cs : List Char} {z : Int} : integer? cs = some z ↔ IsInteger cs z := by
  constructor
  · intro h
    obtain ⟨sign, hs, hc⟩ := exists_sign cs
    simp only [integer?] at h
    split at h
    · rename_i hd
      cases h
      exact ⟨sign, _, _, _, hs, numeral_ten_iff.mpr ⟨hd, rfl⟩, hc, rfl⟩
    · nomatch h
  · rintro ⟨sign, negative, ds, n, hs, hn, rfl, rfl⟩
    obtain ⟨hd, rfl⟩ := numeral_ten_iff.mp hn
    have hh : ∀ c ∈ ds.head?, c ≠ '+' ∧ c ≠ '-' := fun c hc =>
      ne_sign_of_isDigit ((isDigits_iff.mp hd).2 c (List.mem_of_head? hc))
    simp only [integer?, splitSign_append hs hh, hd, if_true]

lemma radixOf_eq_some_iff {c : Char} {radix : Nat} : radixOf c = some radix ↔ (c, radix) ∈ radixLetters := by
  simp only [radixOf, radixLetters, List.mem_cons, Prod.mk.injEq, List.not_mem_nil, or_false, Bool.or_eq_true,
    decide_eq_true_eq]
  constructor
  · intro h
    split_ifs at h with h₁ h₂ h₃
    · cases h
      rcases h₁ with rfl | rfl <;> simp
    · cases h
      rcases h₂ with rfl | rfl <;> simp
    · cases h
      rcases h₃ with rfl | rfl <;> simp
  · rintro (⟨rfl, rfl⟩ | ⟨rfl, rfl⟩ | ⟨rfl, rfl⟩ | ⟨rfl, rfl⟩ | ⟨rfl, rfl⟩ | ⟨rfl, rfl⟩) <;> rfl

lemma radix_le {c : Char} {radix : Nat} (h : (c, radix) ∈ radixLetters) : radix ≤ 16 := by
  have ha : ∀ p ∈ radixLetters, p.2 ≤ 16 := by decide
  exact ha _ h

lemma inRadix?_eq_some_iff {cs : List Char} {n : Nat} : inRadix? cs = some n ↔ IsPrefixed cs n := by
  constructor
  · intro h
    unfold inRadix? at h
    split at h
    · rename_i c ds
      obtain ⟨radix, hr, h⟩ := Option.bind_eq_some_iff.mp h
      have hm := radixOf_eq_some_iff.mp hr
      split at h
      · rename_i hd
        cases h
        obtain ⟨hne, hd⟩ : ds ≠ [] ∧ ∀ c ∈ ds, digitValue c < radix := by simpa using hd
        exact ⟨c, radix, ds, hm, (numeral_iff (radix_le hm)).mpr ⟨hne, hd, rfl⟩, rfl⟩
      · nomatch h
    · nomatch h
  · rintro ⟨letter, radix, ds, hm, hn, rfl⟩
    obtain ⟨hne, hd, rfl⟩ := (numeral_iff (radix_le hm)).mp hn
    have hc : (!ds.isEmpty && ds.all (digitValue · < radix)) = true := by simpa [hne] using hd
    simp only [inRadix?, radixOf_eq_some_iff.mpr hm, Option.bind_eq_bind, Option.bind_some, hc, if_true]
    rfl

lemma isSome_infinity?_iff {cs : List Char} : (infinity? cs).isSome = true ↔ IsInfinity cs := by
  constructor
  · intro h
    obtain ⟨sign, hs, hc⟩ := exists_sign cs
    simp only [infinity?] at h
    split at h
    · rename_i hi
      exact ⟨sign, _, hs, by rwa [hi] at hc⟩
    · nomatch h
  · rintro ⟨sign, negative, hs, rfl⟩
    have hh : ∀ c ∈ "Infinity".toList.head?, c ≠ '+' ∧ c ≠ '-' := by simp
    rw [infinity?, splitSign_append hs hh]
    exact congrArg Option.isSome (if_pos rfl)

lemma isSome_exponent?_iff {cs : List Char} : (exponent? cs).isSome = true ↔ Exponent cs := by
  constructor
  · intro h
    unfold exponent? at h
    split at h
    · exact .absent
    · split at h
      · rename_i he
        obtain ⟨z, hz⟩ := Option.isSome_iff_exists.mp h
        simp only [Bool.or_eq_true, decide_eq_true_eq] at he
        exact .present he (integer?_eq_some_iff.mp hz)
      · nomatch h
  · intro h
    cases h with
    | absent => rfl
    | present he h =>
      rw [exponent?, if_pos (by simpa using he), integer?_eq_some_iff.mpr h]
      rfl

/-! ### Patterns -/

/-- Whichever digits a pattern takes, it takes what can be read. -/
lemma IsInteger.pattern {cs : List Char} {z : Int} (h : IsInteger cs z) (D : Text.Digits) :
    Pattern.integer D cs = true := by
  obtain ⟨sign, negative, ds, n, hs, hn, rfl, -⟩ := h
  obtain ⟨hne, hd⟩ := isDigits_iff.mp (numeral_ten_iff.mp hn).1
  rw [Pattern.integer, splitSign_append hs fun c hc => ne_sign_of_isDigit (hd c (List.mem_of_head? hc))]
  exact spell_iff.mpr ⟨hne, fun c hc => D.has_of_isDigit (hd c hc)⟩

lemma Exponent.pattern {cs : List Char} (h : Exponent cs) (D : Text.Digits) : Pattern.exponent D cs = true := by
  cases h with
  | absent => rfl
  | present he h => simpa [Pattern.exponent, h.pattern D] using he

/-- With the digits of ASCII, an exponent has the pattern if it can be read. -/
lemma isSome_exponent?_eq (cs : List Char) : (exponent? cs).isSome = Pattern.exponent .usual cs := by
  cases cs with
  | nil => rfl
  | cons c cs =>
    have hi : (integer? cs).isSome = Pattern.integer .usual cs := by
      simp only [integer?]
      split
      · rename_i hd
        exact hd.symm
      · rename_i hd
        exact ((Bool.not_eq_true _).mp hd).symm
    rw [exponent?, Pattern.exponent]
    by_cases he : (decide (c = 'e') || decide (c = 'E')) = true
    · rw [if_pos he, he, Bool.true_and, hi]
    · rw [if_neg he, (Bool.not_eq_true _).mp he]
      rfl

/-! ### Decimal literals -/

/-- The text has digits on some side of an optional point at its front. -/
def StartsWithMantissa (D : Text.Digits) (cs : List Char) : Prop :=
  (splitMantissa D cs).1 ++ (splitMantissa D cs).2.1 ≠ []

lemma exists_mantissa {cs : List Char} (h : StartsWithMantissa .usual cs) :
    ∃ mantissa, Mantissa mantissa ∧ cs = mantissa ++ (splitMantissa .usual cs).2.2 := by
  have hw := List.takeWhile_append_dropWhile (p := Char.isDigit) (l := cs)
  have hd (cs : List Char) : ∀ c ∈ cs.takeWhile Char.isDigit, c.isDigit = true := fun c => List.mem_takeWhile_imp
  unfold StartsWithMantissa at h
  simp only [splitMantissa, Text.Digits.usual] at h ⊢
  unfold fraction at h ⊢
  split
  · rename_i rest hr
    rw [hr] at h hw
    refine ⟨cs.takeWhile Char.isDigit ++ '.' :: rest.takeWhile Char.isDigit, .point h fun c hc => ?_, ?_⟩
    · exact (List.mem_append.mp hc).elim (hd cs c) (hd rest c)
    · rw [List.append_assoc, List.cons_append, List.takeWhile_append_dropWhile, hw]
  · rename_i hr
    refine ⟨_, .whole ?_ (hd cs), hw.symm⟩
    simpa using h

/-- Digits are taken as a whole by what does not go on with one. -/
lemma span_digits_append {digit : Char → Bool} {ds cs : List Char} (hd : ∀ c ∈ ds, digit c = true)
    (hc : ∀ c ∈ cs.head?, digit c = false) :
    (ds ++ cs).takeWhile digit = ds ∧ (ds ++ cs).dropWhile digit = cs := by
  rw [List.takeWhile_append_of_pos hd, List.dropWhile_append_of_pos hd]
  cases cs with
  | nil => simp
  | cons c cs => simp [hc c rfl]

lemma fraction_eq {D : Text.Digits} {cs : List Char} (h : ∀ c ∈ cs.head?, c ≠ '.') : fraction D cs = ([], cs) := by
  unfold fraction
  split
  · exact absurd rfl (h '.' rfl)
  · rfl

/-- A mantissa is taken as a whole by what goes on neither with a digit nor with a point. -/
lemma splitMantissa_append {D : Text.Digits} {mantissa cs : List Char} (h : Mantissa mantissa)
    (hc : ∀ c ∈ cs.head?, D.has c = false ∧ c ≠ '.') :
    StartsWithMantissa D (mantissa ++ cs) ∧ (splitMantissa D (mantissa ++ cs)).2.2 = cs := by
  have hn : ∀ c ∈ cs.head?, D.has c = false := fun c h => (hc c h).1
  have hall {ds : List Char} (hd : ∀ c ∈ ds, c.isDigit = true) : ∀ c ∈ ds, D.has c = true :=
    fun c h => D.has_of_isDigit (hd c h)
  unfold StartsWithMantissa splitMantissa
  cases h with
  | whole hne hd =>
    obtain ⟨ht, hr⟩ := span_digits_append (hall hd) hn
    rw [ht, hr, fraction_eq fun c h => (hc c h).2, List.append_nil]
    exact ⟨hne, rfl⟩
  | @point ds es hne hd =>
    obtain ⟨hds, hes⟩ := List.forall_mem_append.mp hd
    have hpoint : ∀ c ∈ ('.' :: (es ++ cs)).head?, D.has c = false := by
      rintro c ⟨⟩
      exact D.ascii '.' (by decide)
    obtain ⟨ht, hr⟩ := span_digits_append (hall hds) hpoint
    obtain ⟨ht', hr'⟩ := span_digits_append (hall hes) hn
    rw [List.append_assoc, List.cons_append, ht, hr, fraction, ht', hr']
    exact ⟨hne, rfl⟩

lemma pattern_decimal_iff {D : Text.Digits} {cs : List Char} : Pattern.decimal D cs = true ↔
    StartsWithMantissa D (splitSign cs).2 ∧ Pattern.exponent D (splitMantissa D (splitSign cs).2).2.2 = true := by
  simp [Pattern.decimal, StartsWithMantissa]

lemma isSome_decimal?_eq (cs : List Char) : (decimal? cs).isSome = Pattern.decimal .usual cs := by
  simp only [decimal?, Pattern.decimal, ← isSome_exponent?_eq]
  split
  · rename_i he
    simp [he]
  · rename_i he
    rw [Bool.not_eq_true] at he
    rw [he]
    cases exponent? (splitMantissa .usual (splitSign cs).2).2.2 <;> rfl

/-- What stands behind a mantissa starts with neither a digit nor a point. -/
lemma Exponent.head {cs : List Char} (h : Exponent cs) (D : Text.Digits) :
    ∀ c ∈ cs.head?, D.has c = false ∧ c ≠ '.' := by
  cases h with
  | absent => simp
  | present he h =>
    rintro c ⟨⟩
    rcases he with rfl | rfl <;> exact ⟨D.ascii _ (by decide), by decide⟩

lemma Mantissa.head {cs : List Char} (h : Mantissa cs) (ds : List Char) :
    ∀ c ∈ (cs ++ ds).head?, c ≠ '+' ∧ c ≠ '-' := by
  cases h with
  | @whole es hn hd =>
    obtain ⟨e, es, rfl⟩ := List.exists_cons_of_ne_nil hn
    simpa using ne_sign_of_isDigit (hd e (.head _))
  | @point es fs hn hd =>
    cases es with
    | nil => simp
    | cons e es => simpa using ne_sign_of_isDigit (hd e (.head _))

/-- The pattern of decimal literals takes all of them. -/
lemma IsDecimal.pattern {cs : List Char} (h : IsDecimal cs) (D : Text.Digits) : Pattern.decimal D cs = true := by
  obtain ⟨sign, negative, mantissa, exponent, hs, hm, he, rfl⟩ := h
  obtain ⟨hne, hr⟩ := splitMantissa_append hm (he.head D)
  rw [pattern_decimal_iff, splitSign_append hs (hm.head exponent), hr]
  exact ⟨hne, he.pattern D⟩

lemma isSome_decimal?_iff {cs : List Char} : (decimal? cs).isSome = true ↔ IsDecimal cs := by
  rw [isSome_decimal?_eq]
  constructor
  · intro h
    obtain ⟨hm, he⟩ := pattern_decimal_iff.mp h
    obtain ⟨sign, hs, hc⟩ := exists_sign cs
    obtain ⟨mantissa, hm, hr⟩ := exists_mantissa hm
    rw [← isSome_exponent?_eq, isSome_exponent?_iff] at he
    exact ⟨sign, _, mantissa, _, hs, hm, he, hr ▸ hc⟩
  · exact fun h => h.pattern .usual

/-- Every integer is a decimal literal, also one that is out of range. -/
lemma IsInteger.isDecimal {cs : List Char} {z : Int} (h : IsInteger cs z) : IsDecimal cs := by
  obtain ⟨sign, negative, ds, n, hs, hn, rfl, -⟩ := h
  obtain ⟨hne, hd⟩ := isDigits_iff.mp (numeral_ten_iff.mp hn).1
  exact ⟨sign, negative, ds, [], hs, .whole hne hd, .absent, by rw [List.append_nil]⟩

end Listing.Number
