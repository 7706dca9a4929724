import Listing.Proofs.BuiltIn
import Listing.Proofs.Squeezing
import Mathlib.Data.List.Forall2

/-! Which texts an operand with wildcards is like. Its pattern is read by the rules of SQL, where some characters
of what stands between the wildcards have a meaning of their own too. -/
namespace Listing

/-- A character with a meaning of its own in a pattern. -/
def isMark (c : Char) : Bool := c == '%' || c == '_' || c == '\\'

/-- A pattern without characters that have a meaning of their own. -/
def IsPlain (cs : List Char) : Prop := ∀ m ∈ cs, isMark m = false

instance (cs : List Char) : Decidable (IsPlain cs) :=
  decidable_of_iff (cs.all (!isMark ·) = true) (by simp [IsPlain])

/-- A text is like a pattern: `%` stands for any text, `_` for any character, and a character behind a backslash for
itself. Where letters are compared without their case, `same` is a coarser relation than equality. -/
inductive Like (same : Char → Char → Prop) : List Char → List Char → Prop
  | done : Like same [] []
  | any {p t : List Char} (skipped : List Char) (h : Like same p t) : Like same ('%' :: p) (skipped ++ t)
  | one {p t : List Char} (c : Char) (h : Like same p t) : Like same ('_' :: p) (c :: t)
  | escaped {p t : List Char} {m c : Char} (hc : same m c) (h : Like same p t) : Like same ('\\' :: m :: p) (c :: t)
  | plain {p t : List Char} {m c : Char} (hm : isMark m = false) (hc : same m c) (h : Like same p t) :
      Like same (m :: p) (c :: t)

/-- A relation that may ignore the case of letters, and tells all else apart as far as patterns need it. -/
structure SameLetters (same : Char → Char → Prop) : Prop where
  refl : ∀ c, same c c
  eq_of_mark : ∀ {m c}, isMark m = true → same m c → m = c

lemma toNat_of_isMark {m : Char} (h : isMark m = true) : m.toNat = 37 ∨ m.toNat = 95 ∨ m.toNat = 92 := by
  simp only [isMark, Bool.or_eq_true, beq_iff_eq, or_assoc] at h
  rcases h with rfl | rfl | rfl
  all_goals decide

/-- Letters of ASCII in either case. -/
lemma sameLetters_toLower : SameLetters fun a b => a.toLower = b.toLower := by
  refine ⟨fun _ => rfl, fun {m c} hm h => Char.toNat_inj.mp ?_⟩
  have hn := congrArg Char.toNat h
  rw [Text.toNat_toLower, Text.toNat_toLower] at hn
  have := toNat_of_isMark hm
  split at hn
  · omega
  · split at hn
    · omega
    · exact hn

/-- What an operand looks for: texts that end with its core, start with it or contain it. -/
inductive Search where
  | ends | starts | contains
  deriving DecidableEq, Repr

namespace Search

/-- Where a part of the text has to stand. -/
def Places : Search → List Char → List Char → Prop
  | ends => (· <:+ ·)
  | starts => (· <+: ·)
  | contains => (· <:+: ·)

/-- The text has the core at the place that is looked at. -/
def Finds (same : Char → Char → Prop) (k : Search) (core text : List Char) : Prop :=
  ∃ part, k.Places part text ∧ List.Forall₂ same core part

def pattern : Search → List Char → List Char
  | ends, core => '%' :: core
  | starts, core => core ++ ['%']
  | contains, core => '%' :: (core ++ ['%'])

end Search

/-- What an operand asks for, by the wildcards at its ends. A wildcard on its own asks for nothing. -/
inductive Asks : List Char → Search → List Char → Prop
  | leading {core : List Char} (h : ('*' :: core).getLast? ≠ some '*') : Asks ('*' :: core) .ends core
  | trailing {core : List Char} (h : (core ++ ['*']).head? ≠ some '*') : Asks (core ++ ['*']) .starts core
  | both (core : List Char) : Asks ('*' :: (core ++ ['*'])) .contains core

variable {same : Char → Char → Prop} {core p t : List Char} {k : Search}

/-! ### Patterns by their parts -/

lemma like_nil_iff : Like same [] t ↔ t = [] := by
  constructor
  · intro h
    cases h
    rfl
  · rintro rfl
    exact .done

lemma like_any_iff : Like same ('%' :: p) t ↔ ∃ part, part <:+ t ∧ Like same p part := by
  constructor
  · intro h
    cases h with
    | any skipped h => exact ⟨_, List.suffix_append _ _, h⟩
    | plain hm => nomatch hm
  · rintro ⟨part, ⟨skipped, rfl⟩, h⟩
    exact .any skipped h

lemma like_cons_iff {m : Char} (hm : isMark m = false) :
    Like same (m :: p) t ↔ ∃ c rest, t = c :: rest ∧ same m c ∧ Like same p rest := by
  constructor
  · intro h
    cases h with
    | any | one | escaped => nomatch hm
    | plain _ hc h => exact ⟨_, _, rfl, hc, h⟩
  · rintro ⟨c, rest, rfl, hc, h⟩
    exact .plain hm hc h

lemma like_plain_append_iff (hp : IsPlain core) :
    Like same (core ++ p) t ↔ ∃ part rest, t = part ++ rest ∧ List.Forall₂ same core part ∧ Like same p rest := by
  induction core generalizing t with
  | nil => simp
  | cons m core ih =>
    obtain ⟨hm, hp⟩ := List.forall_mem_cons.mp hp
    rw [List.cons_append, like_cons_iff hm]
    constructor
    · rintro ⟨c, t, rfl, hc, h⟩
      obtain ⟨part, rest, rfl, hf, hr⟩ := (ih hp).mp h
      exact ⟨c :: part, rest, rfl, .cons hc hf, hr⟩
    · rintro ⟨part, rest, rfl, hf, hr⟩
      cases hf with
      | cons hc hf => exact ⟨_, _, rfl, hc, (ih hp).mpr ⟨_, _, rfl, hf, hr⟩⟩

lemma like_plain_iff (hp : IsPlain core) : Like same core t ↔ List.Forall₂ same core t := by
  have h : Like same (core ++ []) t ↔ _ := like_plain_append_iff hp
  simpa [like_nil_iff] using h

lemma like_plain_any_iff (hp : IsPlain core) :
    Like same (core ++ ['%']) t ↔ ∃ part, part <+: t ∧ List.Forall₂ same core part := by
  rw [like_plain_append_iff hp]
  constructor
  · rintro ⟨part, rest, rfl, hf, -⟩
    exact ⟨part, List.prefix_append _ _, hf⟩
  · rintro ⟨part, ⟨rest, rfl⟩, hf⟩
    exact ⟨part, rest, rfl, hf, like_any_iff.mpr ⟨[], List.nil_suffix, .done⟩⟩

/-- A core without marks is looked for as it is. -/
lemma like_pattern_iff (hp : IsPlain core) : Like same (k.pattern core) t ↔ k.Finds same core t := by
  cases k with
  | ends => simp only [Search.pattern, Search.Finds, Search.Places, like_any_iff, like_plain_iff hp]
  | starts => exact like_plain_any_iff hp
  | contains =>
    simp only [Search.pattern, Search.Finds, Search.Places, like_any_iff, like_plain_any_iff hp,
      List.infix_iff_prefix_suffix]
    constructor
    · rintro ⟨rest, hr, part, hp, hf⟩
      exact ⟨part, ⟨rest, hp, hr⟩, hf⟩
    · rintro ⟨part, ⟨rest, hp, hr⟩, hf⟩
      exact ⟨rest, hr, part, hp, hf⟩

/-! ### Marks in the core -/

/-- A shortest text that is like a pattern, with a letter where any character would do. -/
def least : List Char → List Char
  | '\\' :: m :: p => m :: least p
  | m :: p => if m = '_' then 'x' :: least p else if isMark m then least p else m :: least p
  | [] => []

@[simp] lemma least_any : least ('%' :: p) = least p := by
  cases p <;> rfl

@[simp] lemma least_one : least ('_' :: p) = 'x' :: least p := by
  cases p <;> rfl

lemma least_plain {m : Char} (hm : isMark m = false) : least (m :: p) = m :: least p := by
  have ho : m ≠ '_' := by rintro rfl; nomatch hm
  have he : m ≠ '\\' := by rintro rfl; nomatch hm
  rw [least, if_neg ho, hm, if_neg Bool.false_ne_true]
  exact fun n q h _ => he h

/-- The cases of a pattern: a mark with what it is about, any other character, and a backslash that ends it. -/
lemma pattern_cases {motive : List Char → Prop} (nil : motive []) (any : ∀ p, motive p → motive ('%' :: p))
    (one : ∀ p, motive p → motive ('_' :: p)) (escaped : ∀ m p, motive p → motive ('\\' :: m :: p))
    (escape : motive ['\\']) (plain : ∀ m p, isMark m = false → motive p → motive (m :: p)) : ∀ p, motive p
  | [] => nil
  | m :: p => by
    by_cases hm : isMark m = true
    · simp only [isMark, Bool.or_eq_true, beq_iff_eq, or_assoc] at hm
      rcases hm with rfl | rfl | rfl
      · exact any p (pattern_cases nil any one escaped escape plain p)
      · exact one p (pattern_cases nil any one escaped escape plain p)
      · cases p with
        | nil => exact escape
        | cons m p => exact escaped m p (pattern_cases nil any one escaped escape plain p)
    · exact plain m p (Bool.eq_false_iff.mpr hm) (pattern_cases nil any one escaped escape plain p)

/-- If any text is like a pattern, its least one is. -/
lemma Like.like_least (hs : SameLetters same) (h : Like same p t) : Like same p (least p) := by
  induction h with
  | done => exact .done
  | any _ _ ih => simpa using ih.any []
  | one _ _ ih => simpa using ih.one 'x'
  | escaped _ _ ih => exact .escaped (hs.refl _) ih
  | plain hm _ _ ih =>
    rw [least_plain hm]
    exact .plain hm (hs.refl _) ih

/-- With a wildcard behind it, any pattern has such a text. -/
lemma like_least_append (hs : SameLetters same) (p : List Char) : Like same (p ++ ['%']) (least (p ++ ['%'])) := by
  induction p using pattern_cases with
  | nil => exact .any [] .done
  | escape => exact .escaped (hs.refl _) .done
  | any p ih => simpa using ih.any []
  | one p ih => simpa using ih.one 'x'
  | escaped m p ih => exact .escaped (hs.refl m) ih
  | plain m p hm ih =>
    rw [List.cons_append, least_plain hm]
    exact .plain hm (hs.refl m) ih

section
variable {tail : List Char}

/-- A wildcard behind a pattern adds nothing to its least text, but for a backslash that would take it. -/
lemma length_least_append_le (ht : tail = [] ∨ tail = ['%']) (p : List Char) :
    (least (p ++ tail)).length ≤ p.length := by
  induction p using pattern_cases with
  | nil | escape => rcases ht with rfl | rfl <;> decide
  | any p ih => simpa using ih.trans (Nat.le_succ _)
  | one p ih => simpa using ih
  | escaped m p ih => simpa [least] using ih.trans (Nat.le_succ _)
  | plain m p hm ih => simpa [least_plain hm] using ih

/-- A mark is not found in the least text, which has a letter for it, less than it, or another mark. -/
lemma isPlain_of_forall₂_least (hs : SameLetters same) (ht : tail = [] ∨ tail = ['%'])
    (h : List.Forall₂ same p (least (p ++ tail))) : IsPlain p := by
  induction p using pattern_cases with
  | nil => exact List.forall_mem_nil _
  | escape =>
    rcases ht with rfl | rfl
    · nomatch h
    · cases h with
      | cons hc => exact absurd (hs.eq_of_mark rfl hc) (by decide)
  | any p =>
    have hl := h.length_eq
    have := length_least_append_le ht p
    rw [List.cons_append, least_any, List.length_cons] at hl
    omega
  | one p =>
    rw [List.cons_append, least_one] at h
    cases h with
    | cons hc => exact absurd (hs.eq_of_mark rfl hc) (by decide)
  | escaped m p =>
    have hl := h.length_eq
    have := length_least_append_le ht p
    rw [List.cons_append, List.cons_append, least, List.length_cons, List.length_cons, List.length_cons] at hl
    omega
  | plain m p hm ih =>
    rw [List.cons_append, least_plain hm] at h
    cases h with
    | cons _ h => exact List.forall_mem_cons.mpr ⟨hm, ih h⟩

lemma isPlain_of_finds_least (hs : SameLetters same) (ht : tail = [] ∨ tail = ['%'])
    (h : k.Finds same core (least (core ++ tail))) : IsPlain core := by
  obtain ⟨part, hp, hf⟩ := h
  have hi : part <:+: least (core ++ tail) := by
    cases k with
    | ends => exact hp.isInfix
    | starts => exact hp.isInfix
    | contains => exact hp
  have hl : part = least (core ++ tail) := by
    refine hi.eq_of_length_le ?_
    rw [← hf.length_eq]
    exact length_least_append_le ht core
  exact isPlain_of_forall₂_least hs ht (hl ▸ hf)

end

/-- The pattern finds the texts that are looked for, and no others, just if the core has no marks. -/
theorem Search.like_iff_finds_iff (hs : SameLetters same) :
    (∀ text, Like same (k.pattern core) text ↔ k.Finds same core text) ↔ IsPlain core := by
  refine ⟨fun h => ?_, fun hp text => like_pattern_iff hp⟩
  -- A least text is like the pattern, but with marks in the core it is too short or too different to be looked for.
  cases k with
  | ends =>
    -- The core is found in itself, so some text is like it.
    have hc : Search.ends.Finds same core core := ⟨core, List.suffix_rfl, List.forall₂_same.mpr fun c _ => hs.refl c⟩
    obtain ⟨t, -, hl⟩ := like_any_iff.mp ((h core).mpr hc)
    have hf := (h _).mp ((hl.like_least hs).any [])
    exact isPlain_of_finds_least hs (.inl rfl) (by rwa [List.append_nil])
  | starts => exact isPlain_of_finds_least hs (.inr rfl) ((h _).mp (like_least_append hs core))
  | contains => exact isPlain_of_finds_least hs (.inr rfl) ((h _).mp ((like_least_append hs core).any []))

/-! ### Operands -/

/-- An operand asks for something if it has a wildcard at an end and is more than that, and only then. -/
lemma asks_iff {cs : List Char} :
    (∃ k core, Asks cs k core) ↔ (cs.head? = some '*' ∨ cs.getLast? = some '*') ∧ cs ≠ ['*'] := by
  constructor
  · rintro ⟨k, core, h⟩
    cases h with
    | leading h => exact ⟨.inl rfl, fun hc => h (by rw [hc]; rfl)⟩
    | trailing h => exact ⟨.inr List.getLast?_concat, fun hc => h (by rw [hc]; rfl)⟩
    | both => exact ⟨.inl rfl, by simp⟩
  · rintro ⟨h, hc⟩
    by_cases hh : cs.head? = some '*'
    · obtain ⟨cs, rfl⟩ := List.head?_eq_some_iff.mp hh
      by_cases hl : ('*' :: cs).getLast? = some '*'
      · obtain ⟨core, rfl⟩ : ∃ core, cs = core ++ ['*'] := by
          cases cs with
          | nil => exact absurd rfl hc
          | cons c cs => exact List.getLast?_eq_some_iff.mp (by rwa [List.getLast?_cons_cons] at hl)
        exact ⟨.contains, core, .both core⟩
      · exact ⟨.ends, cs, .leading hl⟩
    · obtain ⟨core, rfl⟩ := List.getLast?_eq_some_iff.mp (h.resolve_left hh)
      exact ⟨.starts, core, .trailing hh⟩

lemma Wildcards.toList_pattern {s : String} (hs : s ≠ "*") :
    (pattern s).toList =
      (if (of s).leading then ['%'] else []) ++ (of s).core s.toList ++ (if (of s).trailing then ['%'] else []) := by
  rw [pattern, if_neg hs]
  simp only [String.toList_append, String.toList_ofList, apply_ite String.toList]
  rfl

lemma Asks.toList_pattern {s : String} (h : Asks s.toList k core) :
    (Wildcards.pattern s).toList = k.pattern core := by
  have hs : s ≠ "*" := fun hs => (asks_iff.mp ⟨k, core, h⟩).2 (by rw [hs]; rfl)
  rw [Wildcards.toList_pattern hs, Wildcards.of]
  generalize s.toList = cs at h
  cases h with
  | leading h =>
    have hl : (('*' :: core).getLast? == some '*') = false := beq_eq_false_iff_ne.mpr h
    simp [Wildcards.core, hl, Search.pattern]
  | trailing h =>
    have hh : ((core ++ ['*']).head? == some '*') = false := beq_eq_false_iff_ne.mpr h
    simp only [Wildcards.core, hh]
    simp [Search.pattern]
  | both =>
    have hl : ('*' :: (core ++ ['*'])).getLast? = some '*' := by
      rw [← List.cons_append, List.getLast?_concat]
    simp [Wildcards.core, hl, Search.pattern]

namespace Config
variable {cfg : Config} {c : Comparison} {op : Operator}

lemma compileComparison_of_hasWildcard (hp : cfg.plugins.find? c.operator = none)
    (ho : Operator.parse? c.operator = some op) (he : op = .eq ∨ op = .ne) (hw : c.hasWildcard = true) (p : Params) :
    cfg.compileComparison c p =
      .ok (cfg.resolve c.selector ++ " " ++ cfg.format.keyword (if op = .eq then .ilike else .notIlike) ++ " " ++
        p.next.text) (p.append [.text (Wildcards.pattern c.firstOperand)]) := by
  have hb : cfg.selectors.bound c = .text (Wildcards.pattern c.firstOperand) := by
    rcases he with rfl | rfl <;> simp [Selectors.bound, ho, hw]
  have hk : op.sign cfg.format c.hasWildcard =
      " " ++ cfg.format.keyword (if op = .eq then .ilike else .notIlike) ++ " " := by
    rcases he with rfl | rfl <;> simp [Operator.sign, hw]
  rw [compileComparison, hp]
  simp only [ho, clause_eq ho, hb, hk]
  simp only [← String.append_assoc]
  rfl

/-- An equality whose operand has a wildcard at an end, and more than that, is bound as a pattern that finds what the
operand asks for, provided that nothing between the wildcards has a meaning of its own in patterns. Otherwise some
text is found or missed that should not be. -/
theorem likeness_finds (hs : SameLetters same) (hp : cfg.plugins.find? c.operator = none)
    (ho : Operator.parse? c.operator = some op) (he : op = .eq ∨ op = .ne) (hw : c.hasWildcard = true)
    (hl : c.firstOperand ≠ "*") (p : Params) :
    (∃ k core, Asks c.firstOperand.toList k core) ∧ ∀ k core, Asks c.firstOperand.toList k core →
      ∃ pattern, pattern.toList = k.pattern core ∧
        cfg.compileComparison c p =
          .ok (cfg.resolve c.selector ++ " " ++ cfg.format.keyword (if op = .eq then .ilike else .notIlike) ++ " " ++
            p.next.text) (p.append [.text pattern]) ∧
        ((∀ text, Like same pattern.toList text ↔ k.Finds same core text) ↔ IsPlain core) := by
  refine ⟨?_, fun k core h => ⟨_, h.toList_pattern, compileComparison_of_hasWildcard hp ho he hw p, ?_⟩⟩
  · simp only [Comparison.hasWildcard, Wildcards.of, Bool.or_eq_true, beq_iff_eq] at hw
    exact asks_iff.mpr ⟨hw, fun hc => hl (String.toList_inj.mp hc)⟩
  · rw [h.toList_pattern]
    exact Search.like_iff_finds_iff hs

/-- A name at the start of a text, without regard to the case of letters. -/
theorem likeness_finds_start :
    let c : Comparison := ⟨"name", "!=", ["Al*"]⟩
    let same : Char → Char → Prop := fun a b => a.toLower = b.toLower
    users.plugins.find? c.operator = none ∧ Operator.parse? c.operator = some .ne ∧ c.hasWildcard = true ∧
      c.firstOperand ≠ "*" ∧
      ∃ pattern, users.compileComparison c ⟨[]⟩ = .ok "u.name NOT ILIKE $1" ⟨[.text pattern]⟩ ∧
        ∀ text, Like same pattern.toList text ↔ Search.starts.Finds same ['A', 'l'] text := by
  intro c same
  have hw : c.hasWildcard = true := by decide
  have hl : c.firstOperand ≠ "*" := by decide
  have ha : Asks c.firstOperand.toList .starts ['A', 'l'] := by
    have hc : c.firstOperand.toList = ['A', 'l'] ++ ['*'] := by decide
    rw [hc]
    exact .trailing (by decide)
  have hp : users.plugins.find? c.operator = none := rfl
  obtain ⟨-, h⟩ := likeness_finds sameLetters_toLower hp rfl (.inr rfl) hw hl ⟨[]⟩
  obtain ⟨pattern, -, hr, hf⟩ := h _ _ ha
  exact ⟨rfl, rfl, hw, hl, pattern, hr, hf.mpr (by decide)⟩

/-- An underscore between the wildcards: a text that does not start with the operand is like its pattern. -/
theorem likeness_finds_underscore :
    let c : Comparison := ⟨"name", "==", ["a_b*"]⟩
    c.hasWildcard = true ∧ c.firstOperand ≠ "*" ∧ Asks c.firstOperand.toList .starts ['a', '_', 'b'] ∧
      users.compileComparison c ⟨[]⟩ = .ok "u.name ILIKE $1" ⟨[.text "a_b%"]⟩ ∧
      Like Eq "a_b%".toList "axb".toList ∧ ¬ Search.starts.Finds Eq ['a', '_', 'b'] "axb".toList := by
  intro c
  have hw : c.hasWildcard = true := by decide
  have hc : c.firstOperand.toList = ['a', '_', 'b'] ++ ['*'] := by decide
  refine ⟨hw, by decide, hc ▸ .trailing (by decide), ?_, ?_, ?_⟩
  · have hp : Wildcards.pattern c.firstOperand = "a_b%" := by decide +kernel
    have hn : users.plugins.find? c.operator = none := rfl
    rw [← hp]
    exact compileComparison_of_hasWildcard hn rfl (.inl rfl) hw ⟨[]⟩
  · exact .plain rfl rfl (.one 'x' (.plain rfl rfl (.any [] .done)))
  · rintro ⟨part, hp, hf⟩
    rw [List.forall₂_eq_eq_eq] at hf
    subst hf
    exact absurd (List.isPrefixOf_iff_prefix.mpr hp) (by decide)

end Config
end Listing
