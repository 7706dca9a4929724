import Listing.Predicate
import Listing.Proofs.Padding

/-! What dates and times start with: a day of the calendar, which need not be written in full. -/
namespace Listing.Calendar
variable {cs ds ys ms front rest : List Char} {y : Int} {m d n width : Nat} {p q : Pattern}

/-! ### Beginnings -/

/-- A text without a time. A year alone stands for its first day, and a month for its own; four bytes of a year and
two of a month, or ten of a day, are what they take in full. -/
inductive Alone : List Char → Int → Nat → Nat → Prop
  | year {ys : List Char} {y : Nat} (hy : Written 4 ys y) : Alone ys y 1 1
  | month {ys ms : List Char} {y : Int} {m : Nat} (hy : PaddedYear ys y) (hm : Padded 2 ms m)
      (hl : byteLength ys = 4) (hl' : byteLength ms = 2) : Alone (ys ++ '-' :: ms) y m 1
  | day {cs : List Char} {y : Int} {m d : Nat} (h : PaddedDay cs y m d) (hl : byteLength cs = 10) : Alone cs y m d

/-- A text that starts with a day, or stands for one alone. -/
inductive Begins : List Char → Int → Nat → Nat → Prop
  | alone {cs : List Char} {y : Int} {m d : Nat} (h : Alone cs y m d) : Begins cs y m d
  | day {front : List Char} {y : Int} {m d : Nat} (h : PaddedDay front y m d) (rest : List Char) :
      Begins (front ++ rest) y m d

/-- The same in full: four digits of a year, alone or with a hyphen and two digits of a month, alone or with a hyphen
and two digits of a day and anything behind them. -/
inductive BeginsInFull : List Char → Nat → Nat → Nat → Prop
  | year {ys : List Char} {y : Nat} (hy : Written 4 ys y) : BeginsInFull ys y 1 1
  | month {ys ms : List Char} {y m : Nat} (hy : Written 4 ys y) (hm : Written 2 ms m) :
      BeginsInFull (ys ++ '-' :: ms) y m 1
  | day {front : List Char} {y m d : Nat} (h : Spells front y m d) (rest : List Char) :
      BeginsInFull (front ++ rest) y m d

/-- The letter T, and hours and minutes. -/
inductive Clock : List Char → Prop
  | intro {hs ns : List Char} {hour minute : Nat} (hh : Written 2 hs hour) (hh' : hour < 24)
      (hm : Written 2 ns minute) (hm' : minute < 60) : Clock ('T' :: (hs ++ ':' :: ns))

/-! ### Bytes -/

lemma byteLength_append (cs ds : List Char) : byteLength (cs ++ ds) = byteLength cs + byteLength ds := by
  induction cs with
  | nil => simp [byteLength]
  | cons c cs ih =>
    simp only [byteLength, List.cons_append, List.foldr_cons] at ih ⊢
    rw [ih, Nat.add_assoc]

lemma byteLength_cons (c : Char) (cs : List Char) : byteLength (c :: cs) = c.utf8Size + byteLength cs := rfl

lemma charAt?_append (cs ds : List Char) (n : Nat) :
    charAt? (cs ++ ds) n = if n < byteLength cs then charAt? cs n else charAt? ds (n - byteLength cs) := by
  induction cs generalizing n with
  | nil => simp [byteLength]
  | cons c cs ih =>
    have hc : 0 < c.utf8Size := Char.utf8Size_pos c
    cases n with
    | zero =>
      have hl : 0 < byteLength (c :: cs) := by rw [byteLength_cons]; omega
      rw [if_pos hl]
      rfl
    | succ n =>
      simp only [List.cons_append, charAt?, ih]
      by_cases h : c.utf8Size ≤ n + 1
      · have hl : n + 1 < byteLength (c :: cs) ↔ n + 1 - c.utf8Size < byteLength cs := by
          rw [byteLength_cons]
          omega
        have he : n + 1 - byteLength (c :: cs) = n + 1 - c.utf8Size - byteLength cs := by
          rw [byteLength_cons]
          omega
        simp only [if_pos h, hl, he]
      · have hl : n + 1 < byteLength (c :: cs) := by
          rw [byteLength_cons]
          omega
        simp only [if_neg h, if_pos hl]

lemma mem_of_charAt? {c : Char} (h : charAt? cs n = some c) : c ∈ cs := by
  induction cs generalizing n with
  | nil => nomatch h
  | cons c' cs ih =>
    cases n with
    | zero =>
      cases h
      exact .head _
    | succ n =>
      simp only [charAt?] at h
      split at h
      · exact .tail _ (ih h)
      · nomatch h

lemma byteLength_of_isDigit (h : ∀ c ∈ cs, c.isDigit = true) : byteLength cs = cs.length :=
  byteLength_of_ascii fun c hc => by
    have hn : c.toNat ≤ 57 := (Char.isDigit_iff_toNat.mp (h c hc)).2
    omega

lemma Written.byteLength (h : Written width ds n) : byteLength ds = width :=
  (byteLength_of_isDigit h.isDigit).trans h.1

/-! ### Hyphens -/

lemma Padded.notMem_hyphen (h : Padded width cs n) : '-' ∉ cs := by
  obtain ⟨hb, -, hn⟩ := h
  have hd := (Number.isDigits_iff.mp (Number.numeral_ten_iff.mp hn).1).2
  rw [List.mem_append]
  rintro (h | h)
  · nomatch hb _ h
  · nomatch hd _ h

lemma Written.notMem_hyphen (h : Written width ds n) : '-' ∉ ds := fun hm => nomatch h.isDigit _ hm

lemma Padded.byteLength_pos (h : Padded width cs n) : 0 < byteLength cs := by
  obtain ⟨-, -, hn⟩ := h
  obtain ⟨c, ds, rfl, -⟩ := exists_digit_cons hn
  have hc : 0 < c.utf8Size := Char.utf8Size_pos c
  rw [byteLength_append, byteLength_cons]
  omega

/-- Numbers end with a digit. -/
lemma exists_concat_digit (h : Number.Numeral 10 ds n) : ∃ init c, ds = init ++ [c] ∧ c.isDigit = true := by
  obtain ⟨hn, hd⟩ := Number.isDigits_iff.mp (Number.numeral_ten_iff.mp h).1
  rcases List.eq_nil_or_concat ds with rfl | ⟨init, c, rfl⟩
  · exact absurd rfl hn
  · rw [List.concat_eq_append] at hd ⊢
    exact ⟨init, c, rfl, hd c (by simp)⟩

lemma PaddedYear.exists_concat_digit (h : PaddedYear ys y) : ∃ init c, ys = init ++ [c] ∧ c.isDigit = true := by
  cases h with
  | plain h =>
    obtain ⟨-, -, hn⟩ := h
    obtain ⟨init, c, rfl, hc⟩ := Calendar.exists_concat_digit hn
    exact ⟨_ ++ init, c, (List.append_assoc _ _ _).symm, hc⟩
  | @plus blanks _ _ hb hn =>
    obtain ⟨init, c, rfl, hc⟩ := Calendar.exists_concat_digit hn
    exact ⟨blanks ++ '+' :: init, c, by simp, hc⟩
  | @minus blanks _ _ hb hn =>
    obtain ⟨init, c, rfl, hc⟩ := Calendar.exists_concat_digit hn
    exact ⟨blanks ++ '-' :: init, c, by simp, hc⟩

/-- The last hyphens of two texts stand at the same place. -/
lemma append_cons_inj_of_last {c : Char} {as bs as' bs' : List Char} (h : c ∉ bs) (h' : c ∉ bs')
    (he : as ++ c :: bs = as' ++ c :: bs') : as = as' ∧ bs = bs' := by
  rcases List.append_eq_append_iff.mp he with ⟨es, rfl, hs⟩ | ⟨es, rfl, hs⟩
  · cases es with
    | nil => simpa using hs
    | cons e es =>
      cases hs
      exact absurd (by simp) h
  · cases es with
    | nil => simpa [eq_comm] using hs
    | cons e es =>
      cases hs
      exact absurd (by simp) h'

/-- White space and a number are digits only where there is no white space. -/
lemma Padded.eq_of_written (h : Padded width ds n) {k : Nat} (hw : Written k ds m) : n = m := by
  obtain ⟨hb, hl, hn⟩ := h
  rename_i blanks ds
  have hnil : blanks = [] := List.eq_nil_iff_forall_not_mem.mpr fun c hc => by
    have hd := Text.isBlank_of_isDigit (hw.isDigit c (List.mem_append_left _ hc))
    rw [hb c hc] at hd
    nomatch hd
  subst hnil
  rw [← (Number.numeral_ten_iff.mp hn).2, ← hw.digitsValue, List.nil_append]

lemma PaddedYear.eq_of_written (h : PaddedYear ys y) {k : Nat} (hw : Written k ys n) : y = n := by
  cases h with
  | plain h => exact congrArg _ (h.eq_of_written hw)
  | plus | minus => nomatch hw.isDigit _ (List.mem_append_right _ (.head _))

/-! ### Texts without a time -/

lemma written_one : Written 2 "01".toList 1 := ⟨rfl, Number.numeral_ten_iff.mpr (by decide)⟩

lemma Written.padded (h : Written width ds n) : Padded width ds n := by
  have hp := Padded.intro (List.forall_mem_nil (Text.isBlank · = true)) h.1.le h.2
  rwa [List.nil_append] at hp

lemma isDay_first (y : Nat) : IsDay y 1 1 := ⟨31, .long (by decide), le_rfl, by decide⟩

lemma isIso8601_of_isDay (h : isDay (completed cs) = true) : isIso8601 cs = true := by
  simp [isIso8601, h]

lemma Written.completed (h : Written 4 ys n) : completed ys = ys ++ '-' :: ("01".toList ++ '-' :: "01".toList) := by
  have ha : ys.all Char.isDigit = true := List.all_eq_true.mpr h.isDigit
  simp [Calendar.completed, h.byteLength, ha]

lemma Written.isIso8601 (h : Written 4 ys n) : isIso8601 ys = true := by
  have hs : Spells (ys ++ '-' :: ("01".toList ++ '-' :: "01".toList)) n 1 1 := .intro h written_one written_one
  refine isIso8601_of_isDay ?_
  rw [h.completed, isDay, hs.byteLength, hs.matches_day (isDay_first n)]
  rfl

/-- A text of seven bytes with a hyphen behind the fourth is completed by the first day of a month. -/
lemma completed_month (hl : byteLength cs = 7) (hc : charAt? cs 4 = some '-') :
    completed cs = cs ++ '-' :: "01".toList := by
  simp [completed, hl, hc]

lemma charAt?_hyphen (hl : byteLength ys = 4) : charAt? (ys ++ '-' :: ms) 4 = some '-' := by
  simp [charAt?_append, hl, charAt?]

/-- A hyphen behind the fourth of seven bytes is the one that parts year and month: a month has none, and a year
whose sign it is would leave no room for a month. -/
lemma byteLength_of_hyphen (hy : PaddedYear ys y) (hm : Padded 2 ms m) (hl : byteLength (ys ++ '-' :: ms) = 7)
    (hc : charAt? (ys ++ '-' :: ms) 4 = some '-') : byteLength ys = 4 ∧ byteLength ms = 2 := by
  have hs : ('-' : Char).utf8Size = 1 := rfl
  have hp := hm.byteLength_pos
  rw [byteLength_append, byteLength_cons, hs] at hl
  rw [charAt?_append] at hc
  suffices byteLength ys = 4 by omega
  split at hc
  · obtain ⟨init, c, rfl, hd⟩ := hy.exists_concat_digit
    have h₁ : byteLength [c] = 1 := byteLength_of_isDigit (List.forall_mem_singleton.mpr hd)
    have hb : byteLength (init ++ [c]) = byteLength init + 1 := by rw [byteLength_append, h₁]
    have h₄ : byteLength init = 4 := by omega
    rw [charAt?_append, h₄, if_neg (lt_irrefl 4)] at hc
    cases hc
    nomatch hd
  · by_contra hn
    obtain ⟨k, hk⟩ : ∃ k, 4 - byteLength ys = k + 1 := ⟨3 - byteLength ys, by omega⟩
    rw [hk, charAt?, hs, if_pos (by omega)] at hc
    exact hm.notMem_hyphen (mem_of_charAt? hc)

lemma completed_of_month (hl : byteLength ys = 4) (hl' : byteLength ms = 2) :
    completed (ys ++ '-' :: ms) = ys ++ '-' :: (ms ++ '-' :: "01".toList) := by
  have hs : ('-' : Char).utf8Size = 1 := rfl
  rw [completed_month (by rw [byteLength_append, byteLength_cons, hs, hl, hl']) (charAt?_hyphen hl),
    List.append_assoc, List.cons_append]

/-- What stands for a day alone is a date, if the calendar has the day. -/
lemma Alone.isIso8601 (h : Alone cs y m d) (hc : InCalendar y m d) : Calendar.isIso8601 cs = true := by
  cases h with
  | year hy => exact hy.isIso8601
  | @month ys ms _ _ hy hm hl hl' =>
    have hs : ('-' : Char).utf8Size = 1 := rfl
    have hp : PaddedDay (ys ++ '-' :: (ms ++ '-' :: "01".toList)) y m 1 := .intro hy hm written_one.padded
    have hb : byteLength (ys ++ '-' :: (ms ++ '-' :: "01".toList)) = 10 := by
      rw [byteLength_append, byteLength_cons, byteLength_append, byteLength_cons, hs, hl, hl', written_one.byteLength]
    refine isIso8601_of_isDay ?_
    rw [completed_of_month hl hl', isDay, hb, hp.matches_day hc]
    rfl
  | day h hl =>
    have hf : completed cs = cs := by simp [completed, hl]
    refine isIso8601_of_isDay ?_
    rw [hf, isDay, hl, h.matches_day hc]
    rfl

/-! ### Texts with a time -/

/-- A day is a date or time when hours and minutes follow it, however it is written. -/
lemma PaddedDay.isIso8601 (h : PaddedDay front y m d) (hc : InCalendar y m d) (ht : Clock rest) :
    Calendar.isIso8601 (front ++ rest) = true := by
  obtain ⟨hh, hh', hm, hm'⟩ := ht
  rename_i hs ns hour minute
  have hz : withoutZ (front ++ 'T' :: (hs ++ ':' :: ns)) = front ++ 'T' :: (hs ++ ':' :: ns) := by
    refine if_neg fun hz => ?_
    obtain ⟨init, c, rfl, hd⟩ := exists_concat_digit hm.2
    have hs : front ++ 'T' :: (hs ++ ':' :: (init ++ [c])) = (front ++ 'T' :: (hs ++ ':' :: init)) ++ [c] := by simp
    rw [hs, List.getLast?_concat] at hz
    cases hz
    nomatch hd
  have hl : localPatterns.any (·.matches (withoutZ (front ++ 'T' :: (hs ++ ':' :: ns)))) = true := by
    rw [hz]
    exact List.any_eq_true.mpr ⟨_, .tail _ (.head _), h.matches_minutes hc hh hh' hm hm'⟩
  simp [Calendar.isIso8601, hl]

/-! ### What is accepted -/

lemma of_matches_dayBy {item : Field → Item} (hi : IsReader item) (hu : q.all Item.isUsual = true)
    (hk : q.all Item.keepsDate = true) (h : Pattern.matches (dayBy item ++ q) cs = true) :
    ∃ front rest y m d, cs = front ++ rest ∧ PaddedDay front y m d ∧ InCalendar y m d ∧ (q = [] → rest = []) := by
  obtain ⟨t, ht⟩ := Option.isSome_iff_exists.mp h
  obtain ⟨hr, hv⟩ := Option.filter_eq_some_iff.mp ht
  obtain ⟨front, rest, y, m, d, rfl, hf, hr⟩ := paddedDay_of_readFrom hi hr
  have hd : t.date = ⟨y, m, d⟩ := (Pattern.of_readFrom hu hr).2 hk
  simp only [Stamp.inRange, hd, Bool.and_eq_true] at hv
  refine ⟨front, rest, y, m, d, rfl, hf, Date.inRange_iff.mp hv.1.1, fun hq => ?_⟩
  subst hq
  cases rest with
  | nil => rfl
  | cons c rest => cases hr

/-- Whichever pattern reads a text, it starts with a day that exists. -/
lemma exists_paddedDay_of_matches (hp : p ∈ patterns) (h : p.matches cs = true) :
    ∃ front rest y m d, cs = front ++ rest ∧ PaddedDay front y m d ∧ InCalendar y m d := by
  obtain ⟨item, q, hi, rfl, hu, hk⟩ := isDated_patterns p hp
  obtain ⟨front, rest, y, m, d, hs, hf, hc, -⟩ := of_matches_dayBy hi hu hk h
  exact ⟨front, rest, y, m, d, hs, hf, hc⟩

lemma exists_paddedDay_of_isDay (h : isDay cs = true) :
    ∃ y m d, PaddedDay cs y m d ∧ byteLength cs = 10 ∧ InCalendar y m d := by
  rw [isDay, Bool.and_eq_true, decide_eq_true_eq] at h
  obtain ⟨front, rest, y, m, d, hs, hf, hc, hr⟩ := of_matches_dayBy (q := []) (.inl rfl) rfl rfl h.2
  rw [hr rfl, List.append_nil] at hs
  exact ⟨y, m, d, hs ▸ hf, h.1, hc⟩

lemma exists_append_withoutZ (cs : List Char) : ∃ rest, cs = withoutZ cs ++ rest := by
  unfold withoutZ
  split
  · rename_i hz
    obtain ⟨ds, rfl⟩ := List.getLast?_eq_some_iff.mp hz
    exact ⟨['Z'], by rw [List.dropLast_concat]⟩
  · exact ⟨[], (List.append_nil cs).symm⟩

/-- What the first day of a month completes is a year and a month. -/
lemma PaddedDay.alone_of_first (h : PaddedDay (cs ++ '-' :: "01".toList) y m d) (hl : byteLength cs = 7)
    (hc : charAt? cs 4 = some '-') : Alone cs y m d := by
  generalize hs : cs ++ '-' :: "01".toList = ds at h
  obtain ⟨hy, hm, hd⟩ := h
  rename_i ys ms ds
  rw [← List.cons_append, ← List.append_assoc] at hs
  obtain ⟨rfl, rfl⟩ := append_cons_inj_of_last (by decide) hd.notMem_hyphen hs
  obtain ⟨h₄, h₂⟩ := byteLength_of_hyphen hy hm hl hc
  obtain rfl := hd.eq_of_written written_one
  exact .month hy hm h₄ h₂

/-- What is completed to a day stands for it alone. -/
lemma exists_alone_of_isDay (h : isDay (completed cs) = true) : ∃ y m d, Alone cs y m d ∧ InCalendar y m d := by
  obtain ⟨y, m, d, hf, hl, hc⟩ := exists_paddedDay_of_isDay h
  unfold completed at hf hl
  split at hf
  · rename_i hy
    rw [Bool.and_eq_true, decide_eq_true_eq, List.all_eq_true] at hy
    have hn : cs ≠ [] := fun hn => by
      rw [hn] at hy
      nomatch hy.1
    have hw : Written 4 cs (Number.digitsValue cs) :=
      ⟨(byteLength_of_isDigit hy.2).symm.trans hy.1,
        Number.numeral_ten_iff.mpr ⟨Number.isDigits_iff.mpr ⟨hn, hy.2⟩, rfl⟩⟩
    have hlt := hw.lt_pow
    exact ⟨_, 1, 1, .year hw, by omega, by omega, isDay_first _⟩
  · rename_i hy
    rw [if_neg hy] at hl
    split at hf
    · rename_i hm
      rw [Bool.and_eq_true, decide_eq_true_eq, beq_iff_eq] at hm
      exact ⟨y, m, d, hf.alone_of_first hm.1 hm.2, hc⟩
    · rename_i hm
      rw [if_neg hm] at hl
      exact ⟨y, m, d, .day hf hl, hc⟩

/-- A date or time starts with a day of the calendar. -/
lemma exists_begins_of_isIso8601 (h : isIso8601 cs = true) : ∃ y m d, Begins cs y m d ∧ InCalendar y m d := by
  simp only [isIso8601, Bool.or_eq_true, List.any_eq_true] at h
  rcases h with (⟨p, hp, h⟩ | ⟨p, hp, h⟩) | h
  · obtain ⟨front, rest, y, m, d, rfl, hf, hc⟩ := exists_paddedDay_of_matches (.tail _ (List.mem_append_left _ hp)) h
    exact ⟨y, m, d, .day hf rest, hc⟩
  · obtain ⟨front, rest, y, m, d, hs, hf, hc⟩ := exists_paddedDay_of_matches (.tail _ (List.mem_append_right _ hp)) h
    obtain ⟨rest', hz⟩ := exists_append_withoutZ cs
    rw [hz, hs, List.append_assoc]
    exact ⟨y, m, d, .day hf _, hc⟩
  · obtain ⟨y, m, d, ha, hc⟩ := exists_alone_of_isDay h
    exact ⟨y, m, d, .alone ha, hc⟩

lemma PaddedDay.two_le_count (h : PaddedDay front y m d) : 2 ≤ front.count '-' := by
  obtain ⟨-, -, -⟩ := h
  simp only [List.count_append, List.count_cons_self]
  omega

/-- The months and days of dates and times that start in full exist. -/
lemma BeginsInFull.isDay (h : BeginsInFull cs n m d) (hs : isIso8601 cs = true) : IsDay n m d := by
  cases h with
  | year hy => exact isDay_first n
  | @month ys ms _ _ hy hm =>
    have hcount : (ys ++ '-' :: ms).count '-' = 1 := by
      rw [List.count_append, List.count_cons_self, List.count_eq_zero.mpr hy.notMem_hyphen,
        List.count_eq_zero.mpr hm.notMem_hyphen]
    obtain ⟨y', m', d', hb, hc⟩ := exists_begins_of_isIso8601 hs
    generalize hs : ys ++ '-' :: ms = cs at hb hcount
    rcases hb with ⟨hw | ⟨hy', hm', -, -⟩ | ⟨hf, -⟩⟩ | ⟨hf, rest⟩
    · rw [List.count_eq_zero.mpr hw.notMem_hyphen] at hcount
      nomatch hcount
    · obtain ⟨rfl, -, rfl⟩ := (List.append_cons_inj_of_notMem hy.notMem_hyphen hm.notMem_hyphen).mp hs
      have hd := hc.2.2
      rwa [hy'.eq_of_written hy, hm'.eq_of_written hm, Int.natAbs_natCast] at hd
    · have := hf.two_le_count
      omega
    · rw [List.count_append] at hcount
      have := hf.two_le_count
      omega
  | day hf rest => exact hf.isDay_of_isIso8601 hs

/-- A date or time starts with a day of the calendar, or stands for one alone; where the day is in full, it is the one
that is written. But it need not be in full: white space in front of its parts, a sign of its year and digits that are
missing are taken alike, in front of a time, and alone where the lengths are those of a date in full. -/
theorem isIso8601_begins (cs : List Char) :
    (isIso8601 cs = true → ∃ y m d, Begins cs y m d ∧ InCalendar y m d) ∧
      (isIso8601 cs = true → ∀ y m d, BeginsInFull cs y m d → IsDay y m d) ∧
      ∀ y m d, InCalendar y m d → (Alone cs y m d → isIso8601 cs = true) ∧
        (PaddedDay cs y m d → ∀ time, Clock time → isIso8601 (cs ++ time) = true) := by
  refine ⟨exists_begins_of_isIso8601, fun hs y m d h => h.isDay hs, fun y m d hc => ⟨?_, ?_⟩⟩
  · exact fun h => h.isIso8601 hc
  · exact fun h time ht => h.isIso8601 hc ht

/-- A leap day in full, and the ides of March of a year before the first, with a blank in front of its sign and
another in front of the month. -/
theorem isIso8601_begins_padded :
    let leap := "2024-02-29T23:59Z".toList
    let ides := " -44- 3-15".toList
    let noon := "T12:00".toList
    isIso8601 leap = true ∧ (∃ y m d, Begins leap y m d ∧ InCalendar y m d) ∧ BeginsInFull leap 2024 2 29 ∧
      IsDay 2024 2 29 ∧ InCalendar (-44) 3 15 ∧ Alone ides (-44) 3 15 ∧ isIso8601 ides = true ∧
      PaddedDay ides (-44) 3 15 ∧ Clock noon ∧ isIso8601 (ides ++ noon) = true := by
  intro leap ides noon
  have written {width n : Nat} {ds : List Char} (hl : ds.length = width)
      (hn : Number.isDigits ds = true ∧ Number.digitsValue ds = n) : Written width ds n :=
    ⟨hl, Number.numeral_ten_iff.mpr hn⟩
  have hs : isIso8601 leap = true := by decide +kernel
  have hf : BeginsInFull leap 2024 2 29 := by
    have hl : leap = ("2024".toList ++ '-' :: ("02".toList ++ '-' :: "29".toList)) ++ "T23:59Z".toList := by decide
    rw [hl]
    exact .day (.intro (written rfl (by decide)) (written rfl (by decide)) (written rfl (by decide))) _
  have hp : PaddedDay ides (-44) 3 15 := by
    have hi : ides = ([' '] ++ '-' :: "44".toList) ++ '-' :: (([' '] ++ ['3']) ++ '-' :: "15".toList) := by decide
    have hb : ∀ c ∈ [' '], Text.isBlank c = true := List.forall_mem_singleton.mpr (by decide)
    rw [hi]
    have hd : Written 2 "15".toList 15 := written rfl (by decide)
    refine .intro (.minus hb (n := 44) ?_) (.intro hb (by decide) ?_) hd.padded
    all_goals exact Number.numeral_ten_iff.mpr (by decide)
  have hc : InCalendar (-44) 3 15 := ⟨by decide, by decide, 31, .long (by decide), by decide, by decide⟩
  have ha : Alone ides (-44) 3 15 := .day hp (by decide)
  have ht : Clock noon := by
    have hn : noon = 'T' :: ("12".toList ++ ':' :: "00".toList) := by decide
    have hh : Written 2 "12".toList 12 := written rfl (by decide)
    have hm : Written 2 "00".toList 0 := written rfl (by decide)
    rw [hn]
    exact .intro hh (by decide) hm (by decide)
  obtain ⟨h₁, h₂, -⟩ := isIso8601_begins leap
  obtain ⟨ha', hp'⟩ := (isIso8601_begins ides).2.2 _ _ _ hc
  exact ⟨hs, h₁ hs, hf, h₂ hs _ _ _ hf, hc, ha, ha' ha, hp, ht, hp' hp _ ht⟩

/-- A month and a day of one digit: the text is a date and time, and a column of dates and times binds it. -/
theorem isIso8601_short_month :
    let seen := "2020-5-1T12:30"
    let cfg : Config := { selectors := .ofList [("seen", .record { domain := .type .dateTime })] }
    isIso8601 seen.toList = true ∧ (¬ ∃ y m d, BeginsInFull seen.toList y m d ∧ IsDay y m d) ∧
      cfg.predicate (some (.comparison ⟨"seen", ">=", [seen]⟩)) ⟨[]⟩ = .ok "seen>=$1" ⟨[.text seen]⟩ := by
  intro seen cfg
  have ha : isIso8601 seen.toList = true := by decide +kernel
  refine ⟨ha, ?_, ?_⟩
  · rintro ⟨y, m, d, hb, hd⟩
    have hl : seen.toList.length = 14 := by decide
    have hs : startsWithDay .usual seen.toList = false := by decide
    generalize seen.toList = cs at hb hl hs
    cases hb with
    | year hy => exact absurd (hy.1.symm.trans hl) (by decide)
    | month hy hm =>
      rw [List.length_append, List.length_cons, hy.1, hm.1] at hl
      exact absurd hl (by decide)
    | day h rest =>
      obtain ⟨hm, hd⟩ := allows_of_isDay hd
      rw [startsWithDay_iff.mpr (dayPattern_usual_iff.mpr ⟨_, rest, _, _, _, rfl, h, hm, hd⟩)] at hs
      cases hs
  · have hv : cfg.validate (.comparison ⟨"seen", ">=", [seen]⟩) = .ok () := by
      change (if !Selector.isRecord _ || false || SelectorType.accepts seen .dateTime then _ else _) = _
      rw [show SelectorType.accepts seen .dateTime = true from ha]
      rfl
    simp only [Config.predicate, hv]
    rfl

end Listing.Calendar
