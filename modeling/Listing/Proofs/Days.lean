import Listing.Proofs.Numbers
import Listing.Proofs.Readers

/-! The texts that a date column takes start with a day of the Gregorian calendar. Whichever pattern of dates and
times a text is read by, the year, the month and the day are the ones that it starts with. -/
namespace Listing

/-! ### The calendar -/

/-- Every fourth year, but of the last years of centuries only every fourth. -/
def IsLeap (y : Nat) : Prop := 4 ∣ y ∧ (100 ∣ y → 400 ∣ y)

/-- How many days a month has in a year. -/
inductive MonthDays (y : Nat) : Nat → Nat → Prop
  | long {m : Nat} (h : m ∈ [1, 3, 5, 7, 8, 10, 12]) : MonthDays y m 31
  | short {m : Nat} (h : m ∈ [4, 6, 9, 11]) : MonthDays y m 30
  | leap (h : IsLeap y) : MonthDays y 2 29
  | common (h : ¬ IsLeap y) : MonthDays y 2 28

/-- The year has the month, and the month has the day. -/
def IsDay (y m d : Nat) : Prop := ∃ n, MonthDays y m n ∧ 1 ≤ d ∧ d ≤ n

variable {y m d : Nat}

lemma isLeapYear_iff : isLeapYear y = true ↔ IsLeap y := by
  simp only [isLeapYear, IsLeap, Bool.and_eq_true, Bool.or_eq_true, decide_eq_true_eq]
  omega

lemma monthDays_iff {n : Nat} : MonthDays y m n ↔ 1 ≤ m ∧ m ≤ 12 ∧ daysInMonth y m = n := by
  constructor
  · intro h
    cases h with
    | long h =>
      simp only [List.mem_cons, List.not_mem_nil, or_false] at h
      rcases h with rfl | rfl | rfl | rfl | rfl | rfl | rfl <;> exact ⟨by decide, by decide, rfl⟩
    | short h =>
      simp only [List.mem_cons, List.not_mem_nil, or_false] at h
      rcases h with rfl | rfl | rfl | rfl <;> exact ⟨by decide, by decide, rfl⟩
    | leap h => exact ⟨by decide, by decide, if_pos (isLeapYear_iff.mpr h)⟩
    | common h => exact ⟨by decide, by decide, if_neg (isLeapYear_iff.not.mpr h)⟩
  · rintro ⟨hm, hn, rfl⟩
    by_cases h : m = 2
    · subst h
      by_cases hy : isLeapYear y = true
      · have hd : daysInMonth y 2 = 29 := if_pos hy
        exact hd ▸ .leap (isLeapYear_iff.mp hy)
      · have hd : daysInMonth y 2 = 28 := if_neg hy
        exact hd ▸ .common (isLeapYear_iff.not.mp hy)
    · by_cases hs : m ∈ [4, 6, 9, 11]
      · have hd : daysInMonth y m = 30 := by
          rw [daysInMonth, if_neg h, if_pos (by simpa [or_assoc] using hs)]
        exact hd ▸ .short hs
      · have hd : daysInMonth y m = 31 := by
          rw [daysInMonth, if_neg h, if_neg (by simpa [and_assoc] using hs)]
        refine hd ▸ .long ?_
        simp only [List.mem_cons, List.not_mem_nil, or_false] at hs ⊢
        omega

lemma Date.isReal_iff : (Date.mk y m d).isReal = true ↔ IsDay y m d := by
  simp [isReal, IsDay, monthDays_iff, and_assoc]

namespace Calendar
variable {s t : Stamp} {cs ds front rest : List Char} {n width : Nat} {f : Field} {p q : Pattern}

/-! ### Days in full -/

/-- A number in so many digits. -/
def Written (width : Nat) (ds : List Char) (n : Nat) : Prop := ds.length = width ∧ Number.Numeral 10 ds n

/-- A day in full: four digits of its year, two of its month and two of its day, with hyphens. -/
inductive Spells : List Char → Nat → Nat → Nat → Prop
  | intro {ys ms ds : List Char} {y m d : Nat} (hy : Written 4 ys y) (hm : Written 2 ms m) (hd : Written 2 ds d) :
      Spells (ys ++ '-' :: (ms ++ '-' :: ds)) y m d

/-- A text that is a day of the calendar in full. -/
def NamesDay (cs : List Char) : Prop := ∃ y m d, Spells cs y m d ∧ IsDay y m d

lemma Written.isDigit (h : Written width ds n) : ∀ c ∈ ds, c.isDigit = true :=
  (Number.isDigits_iff.mp (Number.numeral_ten_iff.mp h.2).1).2

lemma Written.ne_nil (h : Written width ds n) : ds ≠ [] :=
  (Number.isDigits_iff.mp (Number.numeral_ten_iff.mp h.2).1).1

lemma Written.digitsValue (h : Written width ds n) : Number.digitsValue ds = n := (Number.numeral_ten_iff.mp h.2).2

lemma Spells.length (h : Spells front y m d) : front.length = 10 := by
  obtain ⟨hy, hm, hd⟩ := h
  simp [hy.1, hm.1, hd.1]

/-! ### Reading them -/

lemma number_append (h : Written width ds n) (rest : List Char) : number width (ds ++ rest) = some (n, rest) := by
  have ht : (ds ++ rest).take width = ds := by rw [← h.1, List.take_left]
  have hw : ds.takeWhile Char.isDigit = ds := List.takeWhile_eq_self_iff.mpr h.isDigit
  rw [number, ht, hw]
  simp [h.ne_nil, h.digitsValue]

lemma readField_append (h : Written f.width ds n) (rest : List Char) :
    readField f s (ds ++ rest) = if f.allows n then some (s.set n f, rest) else none := by
  simp [readField, number_append h]

/-- The readers of fields, which may want full width. -/
def IsReader (item : Field → Item) : Prop := item = .field ∨ item = .digits

lemma exists_digit_cons (h : Number.Numeral 10 ds n) : ∃ c cs, ds = c :: cs ∧ c.isDigit = true := by
  obtain ⟨hn, hd⟩ := Number.isDigits_iff.mp (Number.numeral_ten_iff.mp h).1
  obtain ⟨c, cs, rfl⟩ := List.exists_cons_of_ne_nil hn
  exact ⟨c, cs, rfl, hd c (.head _)⟩

lemma skipBlanks_append (h : Number.Numeral 10 ds n) (rest : List Char) :
    Text.skipBlanks (ds ++ rest) = ds ++ rest := by
  obtain ⟨c, cs, rfl, hc⟩ := exists_digit_cons h
  simp [Text.skipBlanks, Text.isBlank_of_isDigit hc]

lemma readYear_append (h : Number.Numeral 10 ds n) (rest : List Char) :
    readYear s (ds ++ rest) = readField .year s (ds ++ rest) := by
  obtain ⟨c, cs, rfl, hc⟩ := exists_digit_cons h
  rw [List.cons_append, readYear]
  all_goals
    intro cs h
    cases h
    nomatch hc

/-- Both readers read a field that is written in full. -/
lemma readFrom_field {item : Field → Item} (hi : IsReader item) (h : Written f.width ds n) (rest : List Char)
    (q : Pattern) :
    Pattern.readFrom s (ds ++ rest) (item f :: q) = if f.allows n then q.readFrom (s.set n f) rest else none := by
  have hr : (item f).read s (ds ++ rest) = readField f s (ds ++ rest) := by
    rcases hi with rfl | rfl
    · cases f with
      | year => rw [Item.read, skipBlanks_append h.2, readYear_append h.2]
      | month | day | hour | minute | second => rw [Item.read, skipBlanks_append h.2]; simp
    · rw [Item.read, ← h.1, List.take_left]
      exact if_pos (by simpa using h.isDigit)
  rw [Pattern.readFrom, hr, readField_append h]
  cases f.allows n <;> rfl

lemma readFrom_literal (c : Char) (cs : List Char) (q : Pattern) :
    Pattern.readFrom s (c :: cs) (literal c :: q) = q.readFrom s cs := by
  simp [Pattern.readFrom, literal, Item.read]

/-- A year, a month and a day, with hyphens. -/
def dayBy (item : Field → Item) : Pattern := [item .year, literal '-', item .month, literal '-', item .day]

lemma Spells.readFrom {item : Field → Item} (hi : IsReader item) (h : Spells front y m d) (q : Pattern)
    (rest : List Char) :
    (dayBy item ++ q).readFrom s (front ++ rest) =
      if Field.month.allows m && Field.day.allows d then q.readFrom { s with date := ⟨y, m, d⟩ } rest else none := by
  obtain ⟨hy, hm, hd⟩ := h
  have hl : Field.year.allows y = true := by simp [Field.allows, Field.least, Field.greatest?]
  simp only [dayBy, List.cons_append, List.nil_append, List.append_assoc]
  rw [readFrom_field hi (f := .year) hy, if_pos hl, readFrom_literal, readFrom_field hi (f := .month) hm]
  cases Field.month.allows m with
  | false => rfl
  | true =>
    rw [if_pos rfl, Bool.true_and, readFrom_literal, readFrom_field hi (f := .day) hd]
    rfl

/-- A pattern that starts with a day and reads no part of a date behind it. -/
def IsDated (p : Pattern) : Prop :=
  ∃ item q, IsReader item ∧ p = dayBy item ++ q ∧ q.all Item.isUsual = true ∧ q.all Item.keepsDate = true

lemma isDated_day_append (hu : q.all Item.isUsual = true) (hk : q.all Item.keepsDate = true) : IsDated (day ++ q) :=
  ⟨.field, q, .inl rfl, rfl, hu, hk⟩

lemma isDated_moment : IsDated moment := ⟨.digits, moment.drop 5, .inr rfl, rfl, by decide, rfl⟩

lemma isDated_patterns : ∀ p ∈ patterns, IsDated p := by
  simp only [patterns, zonedPatterns, localPatterns, List.cons_append, List.nil_append, List.append_assoc,
    List.forall_mem_cons]
  have hd : IsDated day := isDated_day_append (q := []) rfl rfl
  refine ⟨hd, isDated_moment, ?_, ?_, ?_, ?_, ?_, ?_, List.forall_mem_nil _⟩
  all_goals exact isDated_day_append (by decide) rfl

/-- Whichever pattern reads a text that starts with a day, the day exists. -/
lemma Spells.isDay_of_matches (hp : p ∈ patterns) (h : Spells front y m d)
    (hm : p.matches (front ++ rest) = true) : IsDay y m d := by
  obtain ⟨item, q, hi, rfl, hu, hk⟩ := isDated_patterns p hp
  obtain ⟨t, ht⟩ := Option.isSome_iff_exists.mp hm
  obtain ⟨hr, hv⟩ := Option.filter_eq_some_iff.mp ht
  rw [h.readFrom hi] at hr
  split at hr
  · have hd : t.date = ⟨y, m, d⟩ := (Pattern.of_readFrom hu hr).2 hk
    simp only [Stamp.inRange, Date.inRange, hd, Bool.and_eq_true] at hv
    exact Date.isReal_iff.mp hv.1.1.1.1
  · nomatch hr

/-! ### Dates and times -/

lemma exists_withoutZ_append (h : front.getLast? ≠ some 'Z') (rest : List Char) :
    ∃ rest', withoutZ (front ++ rest) = front ++ rest' := by
  unfold withoutZ
  split
  · rename_i hz
    rcases List.eq_nil_or_concat rest with rfl | ⟨rest, c, rfl⟩
    · rw [List.append_nil] at hz
      exact absurd hz h
    · rw [List.concat_eq_append, ← List.append_assoc, List.dropLast_concat]
      exact ⟨rest, rfl⟩
  · exact ⟨rest, rfl⟩

lemma length_le_byteLength (cs : List Char) : cs.length ≤ byteLength cs := by
  induction cs with
  | nil => rfl
  | cons c cs ih =>
    have hc : 0 < c.utf8Size := Char.utf8Size_pos c
    simp only [byteLength, List.foldr_cons, List.length_cons] at ih ⊢
    omega

lemma completed_of_length (h : 7 < cs.length) : completed cs = cs := by
  have hb := length_le_byteLength cs
  have h4 : byteLength cs ≠ 4 := by omega
  have h7 : byteLength cs ≠ 7 := by omega
  simp [completed, h4, h7]

lemma Spells.isDigit_or (h : Spells front y m d) : ∀ c ∈ front, c.isDigit = true ∨ c = '-' := by
  obtain ⟨hy, hm, hd⟩ := h
  simp only [List.forall_mem_append, List.forall_mem_cons, or_true, true_and]
  exact ⟨fun c hc => .inl (hy.isDigit c hc), fun c hc => .inl (hm.isDigit c hc), fun c hc => .inl (hd.isDigit c hc)⟩

lemma byteLength_of_ascii (h : ∀ c ∈ cs, c.toNat < 128) : byteLength cs = cs.length := by
  induction cs with
  | nil => rfl
  | cons c cs ih =>
    obtain ⟨hc, h⟩ := List.forall_mem_cons.mp h
    have hs : c.utf8Size = 1 := Char.utf8Size_eq_one_iff.mpr (UInt32.le_iff_toNat_le.mpr (Nat.le_of_lt_succ hc))
    have ih := ih h
    simp only [byteLength, List.foldr_cons, List.length_cons, hs] at ih ⊢
    omega

/-- A text that starts with a day in full and is some date or time names a day that exists. -/
lemma Spells.isDay_of_isIso8601 (h : Spells front y m d) (hs : isIso8601 (front ++ rest) = true) : IsDay y m d := by
  have hz : front.getLast? ≠ some 'Z' := fun hz => by
    have hn := h.isDigit_or 'Z' (List.mem_of_getLast? hz)
    exact absurd hn (by decide)
  have hl : 7 < (front ++ rest).length := by
    rw [List.length_append, h.length]
    omega
  simp only [isIso8601, Bool.or_eq_true, List.any_eq_true] at hs
  rcases hs with (⟨p, hp, hs⟩ | ⟨p, hp, hs⟩) | hs
  · exact h.isDay_of_matches (.tail _ (List.mem_append_left _ hp)) hs
  · obtain ⟨rest', hr⟩ := exists_withoutZ_append hz rest
    rw [hr] at hs
    exact h.isDay_of_matches (.tail _ (List.mem_append_right _ hp)) hs
  · rw [completed_of_length hl, isDay, Bool.and_eq_true] at hs
    exact h.isDay_of_matches (.head _) hs.2

lemma Written.lt_pow (h : Written width ds n) : n < 10 ^ width := by
  obtain ⟨rfl, h⟩ := h
  induction h with
  | digit h => simpa using h.1
  | snoc _ h ih =>
    have := h.1
    rw [List.length_append, List.length_singleton, pow_succ]
    omega

lemma allows_of_isDay (h : IsDay y m d) : Field.month.allows m = true ∧ Field.day.allows d = true := by
  obtain ⟨n, hn, hd, hl⟩ := h
  obtain ⟨hm, hm', -⟩ := monthDays_iff.mp hn
  have hn : n ≤ 31 := by cases hn <;> decide
  constructor
  · simp [Field.allows, Field.least, Field.greatest?, hm, hm']
  · simp [Field.allows, Field.least, Field.greatest?, hd, hl.trans hn]

/-- Years of four digits are far from the ends of the range. -/
lemma inRange_of_isDay (hy : y < 10 ^ 4) (h : IsDay y m d) : Stamp.inRange { date := ⟨y, m, d⟩ } = true := by
  have hf : (⟨y, m, d⟩ : Date) ≠ Date.first := fun hf => by
    have hf : (y : Int) = -262143 := congrArg Date.year hf
    omega
  have hl : (⟨y, m, d⟩ : Date) ≠ Date.last := fun hl => by
    have hl : (y : Int) = 262142 := congrArg Date.year hl
    omega
  have hb : Date.first.year ≤ y ∧ y ≤ Date.last.year := by
    simp only [Date.first, Date.last]
    omega
  simp [Stamp.inRange, Date.inRange, Date.isReal_iff.mpr h, hf, hl, hb]

lemma Spells.matches_day (h : Spells cs y m d) (hd : IsDay y m d) : Pattern.matches day cs = true := by
  have hy : y < 10 ^ 4 := by
    obtain ⟨hy, -, -⟩ := h
    exact hy.lt_pow
  have hr : Pattern.readFrom {} cs day = some { date := ⟨y, m, d⟩ } := by
    have hr := h.readFrom (.inl rfl) (s := {}) [] []
    rw [List.append_nil, (allows_of_isDay hd).1, (allows_of_isDay hd).2] at hr
    exact hr
  rw [Pattern.matches, Pattern.read?, hr, Option.filter_some, inRange_of_isDay hy hd]
  rfl

lemma Spells.byteLength (h : Spells cs y m d) : byteLength cs = 10 := by
  rw [← h.length]
  refine byteLength_of_ascii fun c hc => ?_
  rcases h.isDigit_or c hc with hc | rfl
  · have hn : 48 ≤ c.toNat ∧ c.toNat ≤ 57 := Char.isDigit_iff_toNat.mp hc
    omega
  · decide

/-- A day that exists is a date. -/
lemma Spells.isIso8601 (h : Spells cs y m d) (hd : IsDay y m d) : isIso8601 cs = true := by
  have hl : 7 < cs.length := by
    rw [h.length]
    decide
  simp [Calendar.isIso8601, isDay, completed_of_length hl, h.byteLength, h.matches_day hd]

/-! ### What a text starts with -/

/-- A month in two digits. -/
def IsMonth (a b : Char) : Prop := a = '0' ∧ b ∈ "123456789".toList ∨ a = '1' ∧ b ∈ "012".toList

/-- A day of some month in two digits. -/
def IsMonthDay (D : Text.Digits) (a b : Char) : Prop :=
  a = '0' ∧ b ∈ "123456789".toList ∨ a ∈ ['1', '2'] ∧ D.has b = true ∨ a = '3' ∧ b ∈ ['0', '1']

/-- The pattern of dates, where `D` are the digits. -/
inductive DayPattern (D : Text.Digits) : List Char → Prop
  | intro {y₁ y₂ y₃ y₄ m₁ m₂ d₁ d₂ : Char} (rest : List Char) (hy : ∀ c ∈ [y₁, y₂, y₃, y₄], D.has c = true)
      (hm : IsMonth m₁ m₂) (hd : IsMonthDay D d₁ d₂) :
      DayPattern D (y₁ :: y₂ :: y₃ :: y₄ :: '-' :: m₁ :: m₂ :: '-' :: d₁ :: d₂ :: rest)

instance (a b : Char) : Decidable (IsMonth a b) := inferInstanceAs (Decidable (_ ∨ _))

instance (D : Text.Digits) (a b : Char) : Decidable (IsMonthDay D a b) := inferInstanceAs (Decidable (_ ∨ _))

lemma mem_digits {c : Char} (h : c.isDigit = true) : c ∈ "0123456789".toList := by
  have hn : c.toNat ≤ 57 := (Char.isDigit_iff_toNat.mp h).2
  have hm : c.isDigit = true → c ∈ "0123456789".toList := Number.of_ascii c (by omega) (by decide +kernel)
  exact hm h

/-- Conditions on two characters, as one on the number that they are the digits of. -/
lemma iff_allows {P : Char → Char → Prop} [∀ a b, Decidable (P a b)] {a b : Char}
    (hp : ∀ a b, P a b → a.isDigit = true ∧ b.isDigit = true)
    (hd : ("0123456789".toList.all fun a => "0123456789".toList.all fun b =>
      decide (P a b) == f.allows (Number.digitsValue [a, b])) = true) :
    P a b ↔ a.isDigit = true ∧ b.isDigit = true ∧ f.allows (Number.digitsValue [a, b]) = true := by
  have hd (ha : a.isDigit = true) (hb : b.isDigit = true) :
      P a b ↔ f.allows (Number.digitsValue [a, b]) = true := by
    have he := List.all_eq_true.mp (List.all_eq_true.mp hd a (mem_digits ha)) b (mem_digits hb)
    rw [← eq_of_beq he, decide_eq_true_eq]
  constructor
  · intro h
    obtain ⟨ha, hb⟩ := hp a b h
    exact ⟨ha, hb, (hd ha hb).mp h⟩
  · rintro ⟨ha, hb, h⟩
    exact (hd ha hb).mpr h

lemma isMonth_iff {a b : Char} : IsMonth a b ↔
    a.isDigit = true ∧ b.isDigit = true ∧ Field.month.allows (Number.digitsValue [a, b]) = true := by
  have h₀ : ∀ b ∈ "123456789".toList, b.isDigit = true := List.all_eq_true.mp (by decide)
  have h₁ : ∀ b ∈ "012".toList, b.isDigit = true := List.all_eq_true.mp (by decide)
  refine iff_allows (fun a b h => ?_) (by decide)
  rcases h with ⟨rfl, hb⟩ | ⟨rfl, hb⟩
  · exact ⟨rfl, h₀ b hb⟩
  · exact ⟨rfl, h₁ b hb⟩

lemma isMonthDay_iff {a b : Char} : IsMonthDay .usual a b ↔
    a.isDigit = true ∧ b.isDigit = true ∧ Field.day.allows (Number.digitsValue [a, b]) = true := by
  have h₀ : ∀ b ∈ "123456789".toList, b.isDigit = true := List.all_eq_true.mp (by decide)
  have h₁ : ∀ a ∈ ['1', '2'], a.isDigit = true := List.all_eq_true.mp (by decide)
  have h₃ : ∀ b ∈ ['0', '1'], b.isDigit = true := List.all_eq_true.mp (by decide)
  refine iff_allows (fun a b h => ?_) (by decide)
  rcases h with ⟨rfl, hb⟩ | ⟨ha, hb⟩ | ⟨rfl, hb⟩
  · exact ⟨rfl, h₀ b hb⟩
  · exact ⟨h₁ a ha, hb⟩
  · exact ⟨rfl, h₃ b hb⟩

/-- The pattern is the one that is checked. -/
lemma startsWithDay_iff {D : Text.Digits} : startsWithDay D cs = true ↔ DayPattern D cs := by
  have hm {a b : Char} : isMonth a b = true ↔ IsMonth a b := by simp [isMonth, IsMonth]
  have hd {a b : Char} : isMonthDay D a b = true ↔ IsMonthDay D a b := by simp [isMonthDay, IsMonthDay, or_assoc]
  constructor
  · intro h
    unfold startsWithDay at h
    split at h
    · simp only [Bool.and_eq_true, List.all_eq_true, hm, hd] at h
      exact .intro _ h.1.1 h.1.2 h.2
    · nomatch h
  · rintro ⟨rest, hy, hm', hd'⟩
    simp only [startsWithDay, Bool.and_eq_true, List.all_eq_true, hm, hd]
    exact ⟨⟨hy, hm'⟩, hd'⟩

/-- With the digits of ASCII, it is a day in full, where the calendar is not looked at. -/
lemma dayPattern_usual_iff : DayPattern .usual cs ↔ ∃ front rest y m d, cs = front ++ rest ∧ Spells front y m d ∧
    Field.month.allows m = true ∧ Field.day.allows d = true := by
  constructor
  · rintro @⟨y₁, y₂, y₃, y₄, m₁, m₂, d₁, d₂, rest, hy, hm, hd⟩
    obtain ⟨hm₁, hm₂, ham⟩ := isMonth_iff.mp hm
    obtain ⟨hd₁, hd₂, had⟩ := isMonthDay_iff.mp hd
    have hw {ds : List Char} (hn : ds ≠ []) (hs : ∀ c ∈ ds, c.isDigit = true) :
        Written ds.length ds (Number.digitsValue ds) :=
      ⟨rfl, Number.numeral_ten_iff.mpr ⟨Number.isDigits_iff.mpr ⟨hn, hs⟩, rfl⟩⟩
    have hwy : Written 4 [y₁, y₂, y₃, y₄] _ := hw (by simp) hy
    have hwm : Written 2 [m₁, m₂] _ := hw (by simp) (by simp [hm₁, hm₂])
    have hwd : Written 2 [d₁, d₂] _ := hw (by simp) (by simp [hd₁, hd₂])
    exact ⟨_, rest, _, _, _, rfl, .intro hwy hwm hwd, ham, had⟩
  · rintro ⟨front, rest, y, m, d, rfl, h, ham, had⟩
    obtain ⟨hy, hm, hd⟩ := h
    obtain ⟨y₁, ys, rfl⟩ := List.exists_cons_of_ne_nil hy.ne_nil
    obtain ⟨y₂, y₃, y₄, rfl⟩ := List.length_eq_three.mp (Nat.succ.inj hy.1)
    obtain ⟨m₁, m₂, rfl⟩ := List.length_eq_two.mp hm.1
    obtain ⟨d₁, d₂, rfl⟩ := List.length_eq_two.mp hd.1
    exact .intro rest hy.isDigit
      (isMonth_iff.mpr ⟨hm.isDigit _ (by simp), hm.isDigit _ (by simp), by rwa [hm.digitsValue]⟩)
      (isMonthDay_iff.mpr ⟨hd.isDigit _ (by simp), hd.isDigit _ (by simp), by rwa [hd.digitsValue]⟩)

lemma DayPattern.of_has {D E : Text.Digits} (hE : ∀ c ∈ cs, D.has c = true → E.has c = true) (h : DayPattern D cs) :
    DayPattern E cs := by
  cases h with
  | intro rest hy hm hd =>
    refine .intro rest (fun c hc => hE c ?_ (hy c hc)) hm ?_
    · simp only [List.mem_cons, List.not_mem_nil, or_false] at hc ⊢
      tauto
    · rcases hd with hd | ⟨ha, hb⟩ | hd
      · exact .inl hd
      · exact .inr (.inl ⟨ha, hE _ (by simp) hb⟩)
      · exact .inr (.inr hd)

/-- Digits of a date are digits of ASCII. -/
lemma isDigit_of_has {D : Text.Digits} (hD : D.has '−' = false) (hs : Calendar.isIso8601 cs = true) :
    ∀ c ∈ cs, D.has c = true → c.isDigit = true := by
  have hm : (marks.all fun m => decide (m.toNat < 128) || m == '−') = true := by decide
  intro c hc h
  have hr := isRead_of_isIso8601 hs c hc
  rw [isRead, D.blank c h, Bool.or_false, Bool.or_eq_true] at hr
  rcases hr with hr | hr
  · exact hr
  · have hc := List.all_eq_true.mp hm c (List.contains_iff_mem.mp hr)
    rcases Bool.or_eq_true_iff.mp hc with hl | hl
    · rwa [D.ascii c (of_decide_eq_true hl)] at h
    · rw [eq_of_beq hl, hD] at h
      exact absurd h Bool.false_ne_true

end Calendar

/-- A date column takes texts that start with a day of the calendar in full, and every such day. It takes the texts
that are dates or times and start as the pattern of dates has it, whichever digits are meant. -/
theorem Selector.accepts_date {sel : Selector} (hd : sel.domain = .type .date) (s : String) :
    (sel.accepts s = true → Calendar.NamesDay (s.toList.take 10)) ∧
      (Calendar.NamesDay s.toList → sel.accepts s = true) ∧
      ∀ D : Text.Digits, D.has '−' = false →
        (sel.accepts s = true ↔ Calendar.DayPattern D s.toList ∧ Calendar.isIso8601 s.toList = true) := by
  have ha : sel.accepts s = (Calendar.startsWithDay .unicode s.toList && Calendar.isIso8601 s.toList) := by
    rw [Selector.accepts, hd]
    rfl
  -- of the texts that are dates or times, the pattern takes the same, whatever digits it has
  have hany {D : Text.Digits} (hD : D.has '−' = false) (hi : Calendar.isIso8601 s.toList = true) :
      Calendar.DayPattern D s.toList ↔ Calendar.DayPattern .usual s.toList :=
    ⟨.of_has (Calendar.isDigit_of_has hD hi), .of_has fun c _ hc => D.has_of_isDigit hc⟩
  have hu : Text.Digits.unicode.has '−' = false := by decide
  rw [ha, Bool.and_eq_true, Calendar.startsWithDay_iff]
  refine ⟨?_, ?_, fun D hD => and_congr_left fun hi => (hany hu hi).trans (hany hD hi).symm⟩
  · rintro ⟨hs, hi⟩
    obtain ⟨front, rest, y, m, d, hc, hs, -, -⟩ := Calendar.dayPattern_usual_iff.mp ((hany hu hi).mp hs)
    rw [hc] at hi ⊢
    rw [← hs.length, List.take_left]
    exact ⟨y, m, d, hs, hs.isDay_of_isIso8601 hi⟩
  · rintro ⟨y, m, d, hs, hr⟩
    have hc : s.toList = s.toList ++ [] := (List.append_nil _).symm
    have hi := hs.isIso8601 hr
    exact ⟨(hany hu hi).mpr (Calendar.dayPattern_usual_iff.mpr
      ⟨_, [], y, m, d, hc, hs, Calendar.allows_of_isDay hr⟩), hi⟩

/-- A leap day with a time, a leap day alone, and a leap day whose year has digits that are not those of ASCII. -/
theorem Selector.accepts_date_leap :
    let born : Selector := .record { domain := .type .date }
    born.domain = .type .date ∧
      born.accepts "2024-02-29T23:59Z" = true ∧ Calendar.NamesDay ("2024-02-29T23:59Z".toList.take 10) ∧
      Calendar.NamesDay "2000-02-29".toList ∧ born.accepts "2000-02-29" = true ∧
      Text.Digits.unicode.has '−' = false ∧ Calendar.DayPattern .unicode "٢٠٢٤-02-29".toList ∧
      born.accepts "٢٠٢٤-02-29" = false := by
  intro born
  have ht : born.accepts "2024-02-29T23:59Z" = true := by decide +kernel
  have hn : Calendar.NamesDay "2000-02-29".toList := by
    have hs : "2000-02-29".toList = "2000".toList ++ '-' :: ("02".toList ++ '-' :: "29".toList) := by decide
    rw [hs]
    refine ⟨2000, 2, 29, .intro ?_ ?_ ?_, 29, .leap ⟨by decide, by decide⟩, by decide, le_rfl⟩
    all_goals exact ⟨by decide, Number.numeral_ten_iff.mpr (by decide)⟩
  have hm : Text.Digits.unicode.has '−' = false := by decide
  have hp : Calendar.DayPattern .unicode "٢٠٢٤-02-29".toList :=
    .intro [] (List.all_eq_true.mp (by decide)) (by decide) (by decide)
  have hi : Calendar.isIso8601 "٢٠٢٤-02-29".toList = false := by decide +kernel
  have hf : born.accepts "٢٠٢٤-02-29" = false := Bool.eq_false_iff.mpr fun h => by
    have hs := ((accepts_date rfl _).2.2 _ hm).mp h
    rw [hi] at hs
    nomatch hs.2
  exact ⟨rfl, ht, (accepts_date rfl _).1 ht, hn, (accepts_date rfl _).2.1 hn, hm, hp, hf⟩

end Listing
