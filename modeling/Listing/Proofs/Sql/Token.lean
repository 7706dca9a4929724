import Listing.Format
import Listing.Proofs.Placeholders
import Mathlib.Data.List.Forall2

/-! SQL conditions as tokens. A name or a number goes on as far as it can, and the words of the language are
no names, in whatever case they are written. -/
namespace Listing.Sql

inductive Word where
  | and | or | not | in_ | ilike
  deriving DecidableEq, Repr

inductive Relation where
  | eq | ne | lt | le | gt | ge
  deriving DecidableEq, Repr

inductive Token where
  | name (s : String)
  | word (w : Word)
  | relation (r : Relation)
  | placeholder (n : Nat)
  | opening
  | closing
  deriving DecidableEq, Repr

def Word.text : Word → String
  | and => "and"
  | or => "or"
  | not => "not"
  | in_ => "in"
  | ilike => "ilike"

def Relation.text : Relation → String
  | eq => "="
  | ne => "<>"
  | lt => "<"
  | le => "<="
  | gt => ">"
  | ge => ">="

namespace Word

def all : List Word := [and, or, not, in_, ilike]

def of? (s : String) : Option Word := all.find? fun w => Text.sameIgnoringCase w.text s

end Word

/-- A letter, a digit, a low line or a point. -/
def isNameChar (c : Char) : Bool := c.isAlphanum || c = '_' || c = '.'

/-- A word of the language, or the name of a column. -/
def Token.ofName (s : String) : Token :=
  match Word.of? s with
  | some w => .word w
  | none => .name s

/-- The token at the start of a text, and what follows it. -/
def token? : List Char → Option (Token × List Char)
  | '(' :: cs => some (.opening, cs)
  | ')' :: cs => some (.closing, cs)
  | '=' :: cs => some (.relation .eq, cs)
  | '<' :: '>' :: cs => some (.relation .ne, cs)
  | '<' :: '=' :: cs => some (.relation .le, cs)
  | '<' :: cs => some (.relation .lt, cs)
  | '>' :: '=' :: cs => some (.relation .ge, cs)
  | '>' :: cs => some (.relation .gt, cs)
  | '$' :: cs =>
    if (cs.takeWhile Char.isDigit).isEmpty then none
    else some (.placeholder (Nat.ofDigitChars 10 (cs.takeWhile Char.isDigit) 0), cs.dropWhile Char.isDigit)
  | c :: cs =>
    if isNameChar c then
      some (.ofName (.ofList (c :: cs.takeWhile isNameChar)), cs.dropWhile isNameChar)
    else none
  | [] => none

lemma length_lt_of_token? {cs rest : List Char} {t : Token} (h : token? cs = some (t, rest)) :
    rest.length < cs.length := by
  have hd (p : Char → Bool) (cs : List Char) : (cs.dropWhile p).length < cs.length + 1 :=
    Nat.lt_succ_of_le (List.dropWhile_suffix p).length_le
  unfold token? at h
  split at h
  case h_9 | h_10 =>
    split at h <;> cases h
    exact hd _ _
  case h_11 => nomatch h
  all_goals
    cases h
    simp only [List.length_cons]
    omega

/-- All tokens of a text, between which blanks may stand. -/
def lex : List Char → Option (List Token)
  | [] => some []
  | c :: cs =>
    if c = ' ' then lex cs
    else
      match _h : token? (c :: cs) with
      | some (t, rest) => (lex rest).map (t :: ·)
      | none => none
termination_by cs => cs.length
decreasing_by
  · simp
  · exact length_lt_of_token? _h

/-- In front of `rest`, a text is read as the tokens `ts`, and reading goes on with `rest`. -/
def Reads (s : String) (ts : List Token) (rest : List Char) : Prop :=
  lex (s.toList ++ rest) = (lex rest).map (ts ++ ·)

/-- What follows does not go on with a name or a number. -/
def Ends (rest : List Char) : Prop := rest.head?.all (!isNameChar ·) = true

/-- What may stand for a column: a text of such characters that is no word of the language in any case. -/
structure IsName (s : String) : Prop where
  nonempty : s ≠ ""
  chars : ∀ c ∈ s.toList, isNameChar c = true
  not_word : Word.of? s = none

instance (s : String) : Decidable (IsName s) :=
  decidable_of_iff (s ≠ "" ∧ s.toList.all isNameChar = true ∧ Word.of? s = none)
    ⟨fun ⟨hn, hc, hw⟩ => ⟨hn, List.all_eq_true.mp hc, hw⟩,
      fun h => ⟨h.nonempty, List.all_eq_true.mpr h.chars, h.not_word⟩⟩

section
variable {s t : String} {ts us : List Token} {rest : List Char}

lemma reads_empty : Reads "" [] rest := by
  simp [Reads]

lemma Reads.append (hs : Reads s ts (t.toList ++ rest)) (ht : Reads t us rest) :
    Reads (s ++ t) (ts ++ us) rest := by
  unfold Reads at *
  rw [String.toList_append, List.append_assoc, hs, ht, Option.map_map]
  simp [Function.comp_def]

/-- A text that is read alone is the case in which nothing follows. -/
lemma Reads.lex_eq (h : Reads s ts []) : lex s.toList = some ts := by
  simpa [Reads, lex] using h

lemma reads_blank : Reads " " [] rest := by
  simp [Reads, lex]

/-- A text that is one token. -/
lemma reads_of_token? {x : Token} (h : token? (s.toList ++ rest) = some (x, rest))
    (hb : (s.toList ++ rest).head? ≠ some ' ') : Reads s [x] rest := by
  unfold Reads
  cases hc : s.toList ++ rest with
  | nil =>
    rw [hc] at h
    nomatch h
  | cons c cs =>
    rw [hc] at h hb
    rw [lex, if_neg (by simpa using hb)]
    split
    · rename_i hs
      cases h.symm.trans hs
      rfl
    · rename_i hn
      nomatch h.symm.trans hn

lemma reads_opening : Reads "(" [.opening] rest := reads_of_token? rfl (by simp)

lemma reads_closing : Reads ")" [.closing] rest := reads_of_token? rfl (by simp)

lemma Reads.parenthesized (h : Reads s ts (")".toList ++ rest)) :
    Reads ("(" ++ s ++ ")") (.opening :: ts ++ [.closing]) rest :=
  (reads_opening.append h).append reads_closing

/-- No symbol is the start of a longer one here. -/
lemma reads_relation (r : Relation) (he : rest.head? ≠ some '=') (hg : rest.head? ≠ some '>') :
    Reads r.text [.relation r] rest := by
  refine reads_of_token? ?_ (by cases r <;> simp [Relation.text])
  cases r
  case lt | gt => cases rest <;> simp_all [Relation.text, token?]
  all_goals rfl

/-- A run of characters ends where the text goes on with another. -/
lemma takeWhile_run {p : Char → Bool} {cs : List Char} (hp : ∀ c ∈ cs, p c = true)
    (hr : rest.head?.all (!p ·) = true) :
    (cs ++ rest).takeWhile p = cs ∧ (cs ++ rest).dropWhile p = rest := by
  have ht : (cs ++ rest).takeWhile p = cs := by
    rw [Text.takeWhile_append_of_head hr, List.takeWhile_eq_self_iff.mpr hp]
  have hs := List.takeWhile_append_dropWhile (p := p) (l := cs ++ rest)
  rw [ht] at hs
  exact ⟨ht, List.append_cancel_left hs⟩

lemma Ends.not_digit (h : Ends rest) : rest.head?.all (!·.isDigit) = true := by
  cases rest with
  | nil => rfl
  | cons c cs =>
    have hc : isNameChar c = false := by simpa [Ends] using h
    simp only [isNameChar, Char.isAlphanum, Bool.or_eq_false_iff] at hc
    simp [hc.1.1.2]

/-- Numbers are read back from their decimal digits. -/
lemma reads_placeholder (n : Nat) (h : Ends rest) : Reads (Placeholder.text ⟨n⟩) [.placeholder n] rest := by
  obtain ⟨digits, hs, hne, hd, hn⟩ := Text.exists_digits n
  obtain ⟨htake, hdrop⟩ := takeWhile_run hd h.not_digit
  refine reads_of_token? ?_ (by simp [hs])
  rw [hs, List.cons_append, token?, htake, hdrop, hn]
  simp [hne]

lemma reads_name (hn : s ≠ "") (hc : ∀ c ∈ s.toList, isNameChar c = true) (h : Ends rest) :
    Reads s [.ofName s] rest := by
  obtain ⟨c, cs, hs⟩ := List.exists_cons_of_ne_nil fun he => hn (String.toList_eq_nil_iff.mp he)
  rw [hs] at hc
  obtain ⟨hc, hcs⟩ := List.forall_mem_cons.mp hc
  obtain ⟨htake, hdrop⟩ := takeWhile_run hcs h
  refine reads_of_token? ?_ ?_
  · rw [hs, List.cons_append]
    unfold token?
    split
    case h_10 =>
      rename_i heq
      cases heq
      rw [if_pos hc, htake, hdrop, ← hs, String.ofList_toList]
    case h_11 => contradiction
    -- no symbol is a character of names
    all_goals
      rename_i heq
      obtain ⟨rfl, -⟩ := List.cons.inj heq
      exact absurd hc (by decide)
  · rw [hs]
    rintro ⟨⟩
    exact absurd hc (by decide)

lemma ends_blank : Ends (" ".toList ++ rest) := by
  simp [Ends, isNameChar]

lemma ends_closing : Ends (")".toList ++ rest) := by
  simp [Ends, isNameChar]

lemma IsName.reads (hs : IsName s) (h : Ends rest) : Reads s [.name s] rest := by
  have hr := reads_name hs.nonempty hs.chars h
  rwa [Token.ofName, hs.not_word] at hr

/-! ### Keywords and symbols, as they are spelled -/

def Word.keyword : Word → Keyword
  | and => .and
  | or => .or
  | not => .not
  | in_ => .in_
  | ilike => .ilike

variable (fmt : Format)

lemma reads_keyword (w : Word) (h : Ends rest) : Reads (fmt.keyword w.keyword) [.word w] rest := by
  have hw : fmt.keyword w.keyword ≠ "" ∧ (fmt.keyword w.keyword).toList.all isNameChar = true ∧
      Token.ofName (fmt.keyword w.keyword) = .word w := by
    unfold Format.keyword
    cases w <;> split <;> decide
  obtain ⟨hn, hc, ho⟩ := hw
  exact ho ▸ reads_name hn (List.all_eq_true.mp hc) h

/-- A keyword between blanks may stand anywhere. -/
lemma reads_detached (w : Word) : Reads (" " ++ fmt.keyword w.keyword ++ " ") [.word w] rest :=
  (reads_blank.append (reads_keyword fmt w ends_blank)).append reads_blank

lemma reads_symbol (r : Relation) (he : rest.head? ≠ some '=') (hg : rest.head? ≠ some '>') :
    Reads (fmt.symbol r.text) [.relation r] rest := by
  unfold Format.symbol
  split
  · exact (reads_blank.append (reads_relation r (by simp) (by simp))).append reads_blank
  · exact reads_relation r he hg

/-- Texts that a keyword separates are read apart. -/
lemma reads_intercalate (w : Word) {parts : List String} {tss : List (List Token)}
    (h : List.Forall₂ (fun s ts => ∀ rest, Ends rest → Reads s ts rest) parts tss) (hr : Ends rest) :
    Reads (String.intercalate (" " ++ fmt.keyword w.keyword ++ " ") parts) ([.word w].intercalate tss)
      rest := by
  induction h with
  | nil => simpa using reads_empty
  | @cons s ts parts tss hs hp ih =>
    cases hp with
    | nil => simpa using hs rest hr
    | cons ht hp =>
      rw [String.intercalate_cons_cons, List.intercalate_cons_cons]
      exact ((hs _ (by simp [Ends, isNameChar])).append (reads_detached fmt w)).append ih

end

end Listing.Sql
