import Listing.Proofs.Sql.Token

/-! Boolean conditions of SQL: parentheses, negation, which binds tighter than conjunction, and conjunction,
which binds tighter than disjunction. What a text says is its tree of phrases, and it has no two of them. -/
namespace Listing.Sql

inductive Comparator where
  | relation (r : Relation)
  | in_ | notIn | ilike | notIlike
  deriving DecidableEq, Repr

/-- A column compared with a placeholder. -/
structure Atom where
  column : String
  comparator : Comparator
  number : Nat
  deriving DecidableEq, Repr

mutual

/-- Terms with `OR` between them. -/
inductive Condition where
  | last (t : Term)
  | or (t : Term) (c : Condition)

/-- Factors with `AND` between them. -/
inductive Term where
  | last (f : Factor)
  | and (f : Factor) (t : Term)

inductive Factor where
  | atom (a : Atom)
  | not (f : Factor)
  | paren (c : Condition)

end

def Comparator.tokens : Comparator → List Token
  | relation r => [.relation r]
  | in_ => [.word .in_]
  | notIn => [.word .not, .word .in_]
  | ilike => [.word .ilike]
  | notIlike => [.word .not, .word .ilike]

def Atom.tokens (a : Atom) : List Token := .name a.column :: a.comparator.tokens ++ [.placeholder a.number]

mutual

def Condition.tokens : Condition → List Token
  | .last t => t.tokens
  | .or t c => t.tokens ++ .word .or :: c.tokens

def Term.tokens : Term → List Token
  | .last f => f.tokens
  | .and f t => f.tokens ++ .word .and :: t.tokens

def Factor.tokens : Factor → List Token
  | .atom a => a.tokens
  | .not f => .word .not :: f.tokens
  | .paren c => .opening :: c.tokens ++ [.closing]

end

mutual

/-- The value of a condition in which each placeholder is given one for its atom. -/
def Condition.holds (σ : Nat → Bool) : Condition → Bool
  | .last t => t.holds σ
  | .or t c => t.holds σ || c.holds σ

def Term.holds (σ : Nat → Bool) : Term → Bool
  | .last f => f.holds σ
  | .and f t => f.holds σ && t.holds σ

def Factor.holds (σ : Nat → Bool) : Factor → Bool
  | .atom a => σ a.number
  | .not f => !f.holds σ
  | .paren c => c.holds σ

end

mutual

/-- The atoms from left to right. -/
def Condition.atoms : Condition → List Atom
  | .last t => t.atoms
  | .or t c => t.atoms ++ c.atoms

def Term.atoms : Term → List Atom
  | .last f => f.atoms
  | .and f t => f.atoms ++ t.atoms

def Factor.atoms : Factor → List Atom
  | .atom a => [a]
  | .not f => f.atoms
  | .paren c => c.atoms

end

/-- A text that is the given condition. -/
def Parses (s : String) (c : Condition) : Prop := lex s.toList = some c.tokens

/-! ### No text is two conditions -/

lemma Atom.tokens_append_inj {a b : Atom} {xs ys : List Token} (h : a.tokens ++ xs = b.tokens ++ ys) :
    a = b ∧ xs = ys := by
  obtain ⟨column, comparator, number⟩ := a
  obtain ⟨column', comparator', number'⟩ := b
  cases comparator <;> cases comparator' <;> simp_all [tokens, Comparator.tokens]

/-- The word does not come next. -/
def NotNext (w : Word) (xs : List Token) : Prop := xs.head? ≠ some (.word w)

mutual

/-- A phrase ends before a word that would go on with it, and there alone: of two phrases that start one
list of tokens, neither is longer. -/
theorem Condition.tokens_append_inj {xs ys : List Token} (hx : NotNext .and xs ∧ NotNext .or xs)
    (hy : NotNext .and ys ∧ NotNext .or ys) :
    (c d : Condition) → c.tokens ++ xs = d.tokens ++ ys → c = d ∧ xs = ys
  | .last t, .last u, h => by
    obtain ⟨rfl, rfl⟩ := Term.tokens_append_inj hx.1 hy.1 t u h
    exact ⟨rfl, rfl⟩
  | .last t, .or u d, h => by
    simp only [Condition.tokens, List.append_assoc, List.cons_append] at h
    obtain ⟨-, rfl⟩ := Term.tokens_append_inj hx.1 (by simp [NotNext]) t u h
    exact absurd rfl hx.2
  | .or t c, .last u, h => by
    simp only [Condition.tokens, List.append_assoc, List.cons_append] at h
    obtain ⟨-, rfl⟩ := Term.tokens_append_inj (by simp [NotNext]) hy.1 t u h
    exact absurd rfl hy.2
  | .or t c, .or u d, h => by
    simp only [Condition.tokens, List.append_assoc, List.cons_append] at h
    obtain ⟨rfl, hcd⟩ := Term.tokens_append_inj (by simp [NotNext]) (by simp [NotNext]) t u h
    obtain ⟨rfl, rfl⟩ := Condition.tokens_append_inj hx hy c d (List.cons.inj hcd).2
    exact ⟨rfl, rfl⟩

theorem Term.tokens_append_inj {xs ys : List Token} (hx : NotNext .and xs) (hy : NotNext .and ys) :
    (t u : Term) → t.tokens ++ xs = u.tokens ++ ys → t = u ∧ xs = ys
  | .last e, .last f, h => by
    obtain ⟨rfl, rfl⟩ := Factor.tokens_append_inj e f h
    exact ⟨rfl, rfl⟩
  | .last e, .and f u, h => by
    simp only [Term.tokens, List.append_assoc, List.cons_append] at h
    obtain ⟨-, rfl⟩ := Factor.tokens_append_inj e f h
    exact absurd rfl hx
  | .and e t, .last f, h => by
    simp only [Term.tokens, List.append_assoc, List.cons_append] at h
    obtain ⟨-, rfl⟩ := Factor.tokens_append_inj e f h
    exact absurd rfl hy
  | .and e t, .and f u, h => by
    simp only [Term.tokens, List.append_assoc, List.cons_append] at h
    obtain ⟨rfl, htu⟩ := Factor.tokens_append_inj e f h
    obtain ⟨rfl, rfl⟩ := Term.tokens_append_inj hx hy t u (List.cons.inj htu).2
    exact ⟨rfl, rfl⟩

theorem Factor.tokens_append_inj {xs ys : List Token} :
    (e f : Factor) → e.tokens ++ xs = f.tokens ++ ys → e = f ∧ xs = ys
  | .atom a, .atom b, h => by
    obtain ⟨rfl, rfl⟩ := Atom.tokens_append_inj h
    exact ⟨rfl, rfl⟩
  | .not e, .not f, h => by
    obtain ⟨rfl, rfl⟩ := Factor.tokens_append_inj e f (List.cons.inj h).2
    exact ⟨rfl, rfl⟩
  | .paren c, .paren d, h => by
    simp only [Factor.tokens, List.append_assoc, List.cons_append] at h
    obtain ⟨rfl, hxy⟩ := Condition.tokens_append_inj (by simp [NotNext]) (by simp [NotNext]) c d
      (List.cons.inj h).2
    exact ⟨rfl, (List.cons.inj hxy).2⟩
  | .atom _, .not _, h | .atom _, .paren _, h | .not _, .atom _, h | .not _, .paren _, h
  | .paren _, .atom _, h | .paren _, .not _, h => nomatch (List.cons.inj h).1

end

/-- A text has at most one tree of phrases. -/
theorem Parses.unique {s : String} {c d : Condition} (hc : Parses s c) (hd : Parses s d) : c = d := by
  have h : c.tokens = d.tokens := Option.some.inj (hc.symm.trans hd)
  exact (Condition.tokens_append_inj (by simp [NotNext]) (by simp [NotNext]) c d
    (congrArg (· ++ []) h)).1

/-! ### Atoms, as they are spelled -/

section
variable (fmt : Format) {rest : List Char}

def Comparator.text : Comparator → String
  | relation r => fmt.symbol r.text
  | in_ => " " ++ fmt.keyword .in_ ++ " "
  | notIn => " " ++ fmt.keyword .notIn ++ " "
  | ilike => " " ++ fmt.keyword .ilike ++ " "
  | notIlike => " " ++ fmt.keyword .notIlike ++ " "

def Atom.text (a : Atom) : String := a.column ++ a.comparator.text fmt ++ Placeholder.text ⟨a.number⟩

/-- A keyword that is spelled as two words is read as both. -/
lemma reads_negated {k : Keyword} {w : Word}
    (hk : fmt.keyword k = fmt.keyword .not ++ " " ++ fmt.keyword w.keyword) :
    Reads (" " ++ fmt.keyword k ++ " ") [.word .not, .word w] rest := by
  have hs : " " ++ fmt.keyword k ++ " " =
      " " ++ fmt.keyword .not ++ " " ++ (fmt.keyword w.keyword ++ " ") := by
    simp only [hk, String.append_assoc]
  rw [hs]
  exact (reads_detached fmt .not).append ((reads_keyword fmt w ends_blank).append reads_blank)

/-- Before a placeholder, no symbol goes on. -/
lemma Comparator.reads (c : Comparator) (h : rest.head? = some '$') :
    Reads (c.text fmt) c.tokens rest := by
  cases c with
  | relation r => exact reads_symbol fmt r (by simp [h]) (by simp [h])
  | in_ => exact reads_detached fmt .in_
  | ilike => exact reads_detached fmt .ilike
  | notIn | notIlike =>
    refine reads_negated fmt ?_
    unfold Format.keyword
    split <;> rfl

/-- A column ends where the comparator begins. -/
lemma Comparator.ends (c : Comparator) : Ends ((c.text fmt).toList ++ rest) := by
  cases c with
  | relation r =>
    simp only [text, Format.symbol]
    split
    · simp [Ends, isNameChar]
    · cases r <;> simp [Ends, isNameChar, Relation.text]
  | in_ | notIn | ilike | notIlike => simp [text, Ends, isNameChar]

lemma Atom.reads {a : Atom} (hc : IsName a.column) (h : Ends rest) : Reads (a.text fmt) a.tokens rest := by
  have hp : ((Placeholder.text ⟨a.number⟩).toList ++ rest).head? = some '$' := by simp [Placeholder.text]
  exact ((hc.reads (a.comparator.ends fmt)).append (a.comparator.reads fmt hp)).append
    (reads_placeholder a.number h)

end

/-! ### Chains of phrases -/

def Term.all (e : Factor) : List Factor → Term
  | [] => .last e
  | f :: fs => .and e (all f fs)

def Condition.any (e : Factor) : List Factor → Condition
  | [] => .last (.last e)
  | f :: fs => .or (.last e) (any f fs)

section
variable (e : Factor) (fs : List Factor)

lemma Term.tokens_all :
    (Term.all e fs).tokens = [Token.word .and].intercalate ((e :: fs).map Factor.tokens) := by
  induction fs generalizing e with
  | nil => simp [all, tokens]
  | cons f fs ih =>
    rw [all, tokens, ih]
    simp [List.intercalate_cons_cons]

lemma Condition.tokens_any :
    (Condition.any e fs).tokens = [Token.word .or].intercalate ((e :: fs).map Factor.tokens) := by
  induction fs generalizing e with
  | nil => simp [any, tokens, Term.tokens]
  | cons f fs ih =>
    rw [any, tokens, ih]
    simp [List.intercalate_cons_cons, Term.tokens]

lemma Term.holds_all (σ : Nat → Bool) :
    (Term.all e fs).holds σ = ((e :: fs).map (Factor.holds σ)).all id := by
  induction fs generalizing e with
  | nil => simp [all, holds]
  | cons f fs ih =>
    rw [all, holds, ih]
    rfl

lemma Condition.holds_any (σ : Nat → Bool) :
    (Condition.any e fs).holds σ = ((e :: fs).map (Factor.holds σ)).any id := by
  induction fs generalizing e with
  | nil => simp [any, holds, Term.holds]
  | cons f fs ih =>
    rw [any, holds, ih]
    rfl

lemma Term.atoms_all : (Term.all e fs).atoms = (e :: fs).flatMap Factor.atoms := by
  induction fs generalizing e with
  | nil => simp [all, atoms]
  | cons f fs ih =>
    rw [all, atoms, ih]
    rfl

lemma Condition.atoms_any : (Condition.any e fs).atoms = (e :: fs).flatMap Factor.atoms := by
  induction fs generalizing e with
  | nil => simp [any, atoms, Term.atoms]
  | cons f fs ih =>
    rw [any, atoms, ih]
    rfl

end

end Listing.Sql
