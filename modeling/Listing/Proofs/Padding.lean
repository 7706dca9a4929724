import Listing.Calendar.Iso8601
import Listing.Proofs.Days

/-! Days that need not be written in full. Patterns skip white space in front of a number, and take numbers with fewer
digits than there is room for and years with a sign. -/
namespace Listing

/-! ### The calendar -/

/-- The day exists, in a year that dates reach. -/
def InCalendar (y : Int) (m d : Nat) : Prop := -262143 ≤ y ∧ y ≤ 262142 ∧ IsDay y.natAbs m d

/-- Leap years are spaced alike before the first year and behind it. -/
lemma isLeapYear_natAbs (y : Int) : isLeapYear y.natAbs = isLeapYear y := by
  rw [Bool.eq_iff_iff]
  simp only [isLeapYear, Bool.and_eq_true, Bool.or_eq_true, decide_eq_true_eq]
  omega

lemma Date.inRange_iff {y : Int} {m d : Nat} : (Date.mk y m d).inRange = true ↔ InCalendar y m d := by
  have hd : daysInMonth y m = daysInMonth y.natAbs m := by simp only [daysInMonth, isLeapYear_natAbs]
  have hr : (Date.mk y m d).isReal = (Date.mk y.natAbs m d).isReal := by simp only [isReal, hd]
  simp only [inRange, hr, Bool.and_eq_true, isReal_iff, decide_eq_true_eq]
  change (IsDay _ _ _ ∧ -262143 ≤ y) ∧ y ≤ 262142 ↔ _
  rw [InCalendar, and_assoc, and_comm, and_assoc]

namespace Calendar
variable {s t : Stamp} {cs ds ys front rest : List Char} {y : Int} {m d n width : Nat} {f : Field} {i : Item}
  {q : Pattern}

/-! ### Padding -/

/-- White space, and behind it a number of at most `width` digits. -/
inductive Padded (width : Nat) : List Char → Nat → Prop
  | intro {blanks ds : List Char} {n : Nat} (hb : ∀ c ∈ blanks, Text.isBlank c = true) (hl : ds.length ≤ width)
      (hn : Number.Numeral 10 ds n) : Padded width (blanks ++ ds) n

/-- A year in at most four digits, or in any number of them behind a sign. -/
inductive PaddedYear : List Char → Int → Prop
  | plain {cs : List Char} {n : Nat} (h : Padded 4 cs n) : PaddedYear cs n
  | plus {blanks ds : List Char} {n : Nat} (hb : ∀ c ∈ blanks, Text.isBlank c = true)
      (hn : Number.Numeral 10 ds n) : PaddedYear (blanks ++ '+' :: ds) n
  | minus {blanks ds : List Char} {n : Nat} (hb : ∀ c ∈ blanks, Text.isBlank c = true)
      (hn : Number.Numeral 10 ds n) : PaddedYear (blanks ++ '-' :: ds) (-n)

/-- A year, a month and a day, with hyphens. -/
inductive PaddedDay : List Char → Int → Nat → Nat → Prop
  | intro {ys ms ds : List Char} {y : Int} {m d : Nat} (hy : PaddedYear ys y) (hm : Padded 2 ms m)
      (hd : Padded 2 ds d) : PaddedDay (ys ++ '-' :: (ms ++ '-' :: ds)) y m d

/-! ### What readers take -/

lemma of_number (h : number width cs = some (n, rest)) :
    ∃ ds, cs = ds ++ rest ∧ ds.length ≤ width ∧ Number.Numeral 10 ds n := by
  simp only [number] at h
  split at h
  · cases h
  · rename_i hn
    cases h
    have hp : (cs.take width).takeWhile Char.isDigit <+: cs :=
      (List.takeWhile_prefix Char.isDigit).trans (List.take_prefix width cs)
    refine ⟨_, (List.prefix_iff_eq_append.mp hp).symm, ?_, Number.numeral_ten_iff.mpr ⟨?_, rfl⟩⟩
    · exact (List.takeWhile_prefix _).length_le.trans (List.length_take_le _ _)
    · exact Number.isDigits_iff.mpr ⟨by simpa using hn, fun c => List.mem_takeWhile_imp⟩

lemma padded_of_readField (h : readField f s (Text.skipBlanks cs) = some (t, rest)) :
    ∃ front n, cs = front ++ rest ∧ Padded f.width front n ∧ t = s.set n f := by
  obtain ⟨⟨n, ds⟩, hn, h⟩ := Option.bind_eq_some_iff.mp h
  dsimp only at h
  split at h
  · cases h
    obtain ⟨ds, hs, hl, hn⟩ := of_number hn
    refine ⟨cs.takeWhile Text.isBlank ++ ds, n, ?_, .intro (fun c => List.mem_takeWhile_imp) hl hn, rfl⟩
    rw [List.append_assoc, ← hs, Text.skipBlanks, List.takeWhile_append_dropWhile]
  · cases h

lemma padded_of_readYear (h : readYear s (Text.skipBlanks cs) = some (t, rest)) :
    ∃ front y, cs = front ++ rest ∧ PaddedYear front y ∧ t = s.setYear y := by
  obtain ⟨blanks, hb, hc⟩ : ∃ blanks, (∀ c ∈ blanks, Text.isBlank c = true) ∧ cs = blanks ++ Text.skipBlanks cs :=
    ⟨cs.takeWhile Text.isBlank, fun c => List.mem_takeWhile_imp, List.takeWhile_append_dropWhile.symm⟩
  unfold readYear at h
  split at h
  · rename_i hs
    obtain ⟨⟨n, ds⟩, hn, h⟩ := Option.map_eq_some_iff.mp h
    cases h
    obtain ⟨ds, rfl, -, hn⟩ := of_number hn
    exact ⟨_, _, by rw [hc, hs, List.append_assoc, List.cons_append], .minus hb hn, rfl⟩
  · rename_i hs
    obtain ⟨⟨n, ds⟩, hn, h⟩ := Option.map_eq_some_iff.mp h
    cases h
    obtain ⟨ds, rfl, -, hn⟩ := of_number hn
    exact ⟨_, _, by rw [hc, hs, List.append_assoc, List.cons_append], .plus hb hn, rfl⟩
  · obtain ⟨front, n, hs, hp, rfl⟩ := padded_of_readField h
    exact ⟨front, n, hs, .plain hp, rfl⟩

lemma of_readFrom_cons (h : Pattern.readFrom s cs (i :: q) = some t) :
    ∃ s' rest, i.read s cs = some (s', rest) ∧ q.readFrom s' rest = some t := by
  simp only [Pattern.readFrom] at h
  split at h
  · rename_i s' rest hr
    exact ⟨s', rest, hr, h⟩
  · cases h

lemma of_readFrom_literal {c : Char} (h : Pattern.readFrom s cs (literal c :: q) = some t) :
    ∃ rest, cs = c :: rest ∧ q.readFrom s rest = some t := by
  obtain ⟨s', rest, hr, hq⟩ := of_readFrom_cons h
  refine ⟨rest, ?_⟩
  cases cs with
  | nil => cases hr
  | cons c' cs =>
    simp only [literal, Item.read] at hr
    split at hr
    · rename_i hc
      cases hr
      have hc : c' = c := by simpa using hc
      exact ⟨hc ▸ rfl, hq⟩
    · cases hr

/-- What is read as digits in full width is read alike as a field. -/
lemma read_field_of_read_digits {r : Stamp × List Char} (h : (Item.digits f).read s cs = some r) :
    (Item.field f).read s cs = some r := by
  simp only [Item.read] at h
  split at h
  · rename_i hd
    rw [Bool.and_eq_true, decide_eq_true_eq] at hd
    have hw : Written f.width (cs.take f.width) (Number.digitsValue (cs.take f.width)) := by
      refine ⟨hd.1, Number.numeral_ten_iff.mpr ⟨Number.isDigits_iff.mpr ⟨fun hn => ?_, by simpa using hd.2⟩, rfl⟩⟩
      rw [hn] at hd
      cases f <;> exact absurd hd.1 (by decide)
    rw [← List.take_append_drop f.width cs] at h ⊢
    cases f with
    | year => rwa [Item.read, skipBlanks_append hw.2, readYear_append hw.2]
    | month | day | hour | minute | second =>
      rw [Item.read, skipBlanks_append hw.2]
      · exact h
      · simp
  · cases h

lemma read_field_of_reader {item : Field → Item} (hi : IsReader item) {r : Stamp × List Char}
    (h : (item f).read s cs = some r) : (Item.field f).read s cs = some r := by
  rcases hi with rfl | rfl
  · exact h
  · exact read_field_of_read_digits h

/-- A pattern of days reads a day that need not be in full. -/
lemma paddedDay_of_readFrom {item : Field → Item} (hi : IsReader item)
    (h : (dayBy item ++ q).readFrom s cs = some t) :
    ∃ front rest y m d, cs = front ++ rest ∧ PaddedDay front y m d ∧
      q.readFrom { s with date := ⟨y, m, d⟩ } rest = some t := by
  simp only [dayBy, List.cons_append, List.nil_append] at h
  obtain ⟨s₁, cs₁, ry, h₁⟩ := of_readFrom_cons h
  obtain ⟨cs₂, rfl, h₂⟩ := of_readFrom_literal h₁
  obtain ⟨s₃, cs₃, rm, h₃⟩ := of_readFrom_cons h₂
  obtain ⟨cs₄, rfl, h₄⟩ := of_readFrom_literal h₃
  obtain ⟨s₅, cs₅, rd, h₅⟩ := of_readFrom_cons h₄
  obtain ⟨ys, y, rfl, hy, rfl⟩ := padded_of_readYear (read_field_of_reader hi ry)
  obtain ⟨ms, m, rfl, hm, rfl⟩ := padded_of_readField (f := .month) (read_field_of_reader hi rm)
  obtain ⟨ds, d, rfl, hd, rfl⟩ := padded_of_readField (f := .day) (read_field_of_reader hi rd)
  exact ⟨_, cs₅, y, m, d, by simp only [List.append_assoc, List.cons_append], .intro hy hm hd, h₅⟩

/-! ### Days that are read whole -/

lemma number_append_of_head (hn : Number.Numeral 10 ds n) (hl : ds.length ≤ width)
    (hr : ∀ c ∈ rest.head?, c.isDigit = false) : number width (ds ++ rest) = some (n, rest) := by
  obtain ⟨hd, hv⟩ := Number.numeral_ten_iff.mp hn
  obtain ⟨hne, hd⟩ := Number.isDigits_iff.mp hd
  have hh : ∀ c ∈ (rest.take (width - ds.length)).head?, c.isDigit = false := fun c hc => by
    rw [List.head?_take] at hc
    split at hc
    · nomatch hc
    · exact hr c hc
  have ht : ((ds ++ rest).take width).takeWhile Char.isDigit = ds := by
    rw [List.take_append, List.take_of_length_le hl, (Number.span_digits_append hd hh).1]
  rw [number, ht]
  simp [hne, hv]

lemma skipBlanks_padded {blanks : List Char} (hb : ∀ c ∈ blanks, Text.isBlank c = true) {c : Char}
    (hc : Text.isBlank c = false) : Text.skipBlanks (blanks ++ c :: cs) = c :: cs := by
  rw [Text.skipBlanks, List.dropWhile_append_of_pos hb, List.dropWhile_cons_of_neg (by simp [hc])]

/-- White space is skipped in front of digits. -/
lemma Padded.exists_skipBlanks (h : Padded width front n) (rest : List Char) :
    ∃ ds, Text.skipBlanks (front ++ rest) = ds ++ rest ∧ ds.length ≤ width ∧ Number.Numeral 10 ds n := by
  obtain ⟨hb, hl, hn⟩ := h
  rename_i blanks ds
  obtain ⟨c, cs, rfl, hc⟩ := exists_digit_cons hn
  refine ⟨c :: cs, ?_, hl, hn⟩
  rw [List.append_assoc]
  exact skipBlanks_padded hb (Text.isBlank_of_isDigit hc)

lemma Padded.readField (h : Padded f.width front n) (hr : ∀ c ∈ rest.head?, c.isDigit = false) :
    readField f s (Text.skipBlanks (front ++ rest)) = if f.allows n then some (s.set n f, rest) else none := by
  obtain ⟨ds, hs, hl, hn⟩ := h.exists_skipBlanks rest
  rw [hs, Calendar.readField, number_append_of_head hn hl hr]
  rfl

lemma PaddedYear.readYear (h : PaddedYear ys y) (hr : ∀ c ∈ rest.head?, c.isDigit = false) :
    readYear s (Text.skipBlanks (ys ++ rest)) = some (s.setYear y, rest) := by
  cases h with
  | plain h =>
    obtain ⟨ds, hs, -, hn⟩ := h.exists_skipBlanks rest
    have hf := h.readField (f := .year) (s := s) hr
    rw [hs] at hf ⊢
    rw [readYear_append hn, hf]
    simp [Field.allows, Field.least, Field.greatest?, Stamp.set]
  | plus hb hn | minus hb hn =>
    rw [List.append_assoc, List.cons_append, skipBlanks_padded hb (by decide), Calendar.readYear,
      number_append_of_head hn (by simp) hr]
    rfl

lemma not_isDigit_hyphen : ∀ c ∈ ('-' :: cs).head?, c.isDigit = false := by simp

lemma PaddedDay.readFrom (h : PaddedDay front y m d) (hr : ∀ c ∈ rest.head?, c.isDigit = false) :
    (day ++ q).readFrom s (front ++ rest) =
      if Field.month.allows m && Field.day.allows d then q.readFrom { s with date := ⟨y, m, d⟩ } rest else none := by
  obtain ⟨hy, hm, hd⟩ := h
  simp only [day, List.cons_append, List.nil_append, List.append_assoc]
  rw [Pattern.readFrom, Item.read, hy.readYear not_isDigit_hyphen]
  dsimp only
  rw [readFrom_literal, Pattern.readFrom, Item.read, hm.readField (f := .month) not_isDigit_hyphen]
  · cases Field.month.allows m with
    | false => rfl
    | true =>
      rw [if_pos rfl, Bool.true_and]
      dsimp only
      rw [readFrom_literal, Pattern.readFrom, Item.read, hd.readField (f := .day) hr]
      · cases Field.day.allows d <;> rfl
      · simp
  · simp

lemma allows_of_inCalendar (h : InCalendar y m d) : (Field.month.allows m && Field.day.allows d) = true := by
  obtain ⟨hm, hd⟩ := allows_of_isDay h.2.2
  rw [hm, hd]
  rfl

/-- Local times are within the day. -/
lemma inRange_of_inCalendar (h : InCalendar y m d) {hour minute : Nat} (hh : hour < 24) (hm : minute < 60) :
    Stamp.inRange { date := ⟨y, m, d⟩, hour, minute } = true := by
  have hu : Stamp.universalMinute { date := ⟨y, m, d⟩, hour, minute } = hour * 60 + minute := by
    simp [Stamp.universalMinute]
  have h₀ : ¬ (hour * 60 + minute : Int) < 0 := by omega
  have h₁ : (hour * 60 + minute : Int) < 1440 := by omega
  simp [Stamp.inRange, hu, h₀, h₁, Date.inRange_iff.mpr h]

lemma PaddedDay.matches_day (h : PaddedDay front y m d) (hc : InCalendar y m d) :
    Pattern.matches day front = true := by
  have hr : Pattern.readFrom {} front day = some { date := ⟨y, m, d⟩ } := by
    have hr : Pattern.readFrom {} (front ++ []) (day ++ []) = _ := h.readFrom (by simp)
    rwa [List.append_nil, List.append_nil, allows_of_inCalendar hc, if_pos rfl] at hr
  rw [Pattern.matches, Pattern.read?, hr, Option.filter_some, inRange_of_inCalendar hc (by decide) (by decide)]
  rfl

lemma PaddedDay.matches_minutes (h : PaddedDay front y m d) (hc : InCalendar y m d) {hs ns : List Char}
    {hour minute : Nat} (hh : Written 2 hs hour) (hh' : hour < 24) (hm : Written 2 ns minute) (hm' : minute < 60) :
    Pattern.matches (day ++ [literal 'T'] ++ minutes) (front ++ 'T' :: (hs ++ ':' :: ns)) = true := by
  have ha : Field.hour.allows hour = true := by simp [Field.allows, Field.least, Field.greatest?]; omega
  have ha' : Field.minute.allows minute = true := by simp [Field.allows, Field.least, Field.greatest?]; omega
  have hr : Pattern.readFrom {} (front ++ 'T' :: (hs ++ ':' :: ns)) (day ++ [literal 'T'] ++ minutes) =
      some { date := ⟨y, m, d⟩, hour, minute } := by
    rw [List.append_assoc, h.readFrom (by simp), allows_of_inCalendar hc, if_pos rfl, List.cons_append,
      readFrom_literal, List.nil_append, minutes, readFrom_field (.inl rfl) (f := .hour) hh, if_pos ha,
      readFrom_literal]
    have hn := readFrom_field (.inl rfl) (f := .minute) hm (s := Stamp.set { date := ⟨y, m, d⟩ } hour .hour) [] []
    rw [List.append_nil, if_pos ha'] at hn
    exact hn
  rw [Pattern.matches, Pattern.read?, hr, Option.filter_some, inRange_of_inCalendar hc hh' hm']
  rfl

end Calendar
end Listing
