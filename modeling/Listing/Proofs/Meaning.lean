import Listing.Proofs.Acceptance
import Listing.Proofs.BuiltIn
import Listing.Proofs.Sql.Grammar

/-! What the predicate says. Its text is a condition in one way only, however the groups of the filter are
nested, and this condition holds exactly where the filter does: the value of each comparison is that of its
placeholder, the next one in reading order. -/
namespace Listing
open Sql

/-- The value of a group, from those of its operands. A negation has only one. -/
def Connective.holds : Connective → List Bool → Bool
  | .and, bs => bs.all id
  | .or, bs => bs.any id
  | .not, bs => !bs.all id

mutual

/-- The value of a filter behind `n` comparisons, where `σ` gives the placeholders theirs. -/
def Filter.holds (σ : Nat → Bool) (n : Nat) : Filter → Bool
  | .comparison _ => σ (n + 1)
  | .group k os => k.holds (Operand.holds σ n os)

/-- The values of the filters among the operands, which are numbered one after another. -/
def Operand.holds (σ : Nat → Bool) (n : Nat) : List Operand → List Bool
  | [] => []
  | .filter f :: os => f.holds σ n :: Operand.holds σ (n + f.comparisons.length) os
  | .stray _ :: os => Operand.holds σ n os

end

/-- How SQL compares under an operator. -/
def Operator.comparator (wildcard : Bool) : Operator → Comparator
  | .eq => if wildcard then .ilike else .relation .eq
  | .ne => if wildcard then .notIlike else .relation .ne
  | .lt => .relation .lt
  | .le => .relation .le
  | .gt => .relation .gt
  | .ge => .relation .ge
  | .in_ => .in_
  | .out => .notIn

lemma Operator.sign_eq_text (fmt : Format) (wildcard : Bool) (op : Operator) :
    op.sign fmt wildcard = (op.comparator wildcard).text fmt := by
  cases op <;> cases wildcard <;> rfl

namespace Config
variable {cfg : Config}

/-- The columns of a filter are names. -/
def Names (cfg : Config) (f : Filter) : Prop := ∀ c ∈ f.comparisons, IsName (cfg.resolve c.selector)

instance (cfg : Config) (f : Filter) : Decidable (cfg.Names f) :=
  inferInstanceAs (Decidable (∀ c ∈ f.comparisons, _))

/-- The atom that a comparison is written as. -/
def atom? (cfg : Config) (c : Comparison) (n : Nat) : Option Atom :=
  (Operator.parse? c.operator).map fun op => ⟨cfg.resolve c.selector, op.comparator c.hasWildcard, n⟩

lemma builtInText_eq_atom {c : Comparison} {n : Nat} {a : Atom} (h : cfg.atom? c n = some a) :
    cfg.builtInText n c = a.text cfg.format := by
  obtain ⟨op, ho, rfl⟩ := Option.map_eq_some_iff.mp h
  simp [builtInText, ho, Operator.sign_eq_text, Atom.text]

/-! ### Groups -/

/-- A factor stands for a filter behind `n` comparisons: it is what the text of the filter says, it has the
filter's value, and its atoms are the comparisons in reading order. -/
structure Stands (cfg : Config) (n : Nat) (f : Filter) (e : Factor) : Prop where
  reads : ∀ rest, Ends rest → Reads (cfg.builtIn.render cfg.format n f) e.tokens rest
  holds : ∀ σ, e.holds σ = f.holds σ n
  atoms : e.atoms.map some = (f.comparisons.zipIdx (n + 1)).map fun (c, i) => cfg.atom? c i

/-- The same for operands one after another. -/
structure StandAll (cfg : Config) (n : Nat) (os : List Operand) (es : List Factor) : Prop where
  reads : List.Forall₂ (fun s ts => ∀ rest, Ends rest → Reads s ts rest)
    (cfg.builtIn.renderAll cfg.format n os) (es.map Factor.tokens)
  holds : ∀ σ, es.map (Factor.holds σ) = Operand.holds σ n os
  atoms : (es.flatMap Factor.atoms).map some =
    ((Operand.comparisons os).zipIdx (n + 1)).map fun (c, i) => cfg.atom? c i

lemma StandAll.cons {n : Nat} {f : Filter} {os : List Operand} {e : Factor} {es : List Factor}
    (he : cfg.Stands n f e) (hes : cfg.StandAll (n + f.comparisons.length) os es) :
    cfg.StandAll n (.filter f :: os) (e :: es) where
  reads := by
    rw [Phrasing.renderAll, valuesOf_builtIn, List.length_map]
    exact .cons he.reads hes.reads
  holds σ := by
    rw [List.map_cons, he.holds, hes.holds, Operand.holds]
  atoms := by
    rw [List.flatMap_cons, List.map_append, he.atoms, hes.atoms, Operand.comparisons, List.zipIdx_append,
      List.map_append, Nat.add_right_comm]

lemma exists_standAll {os : List Operand} (hos : ∀ o ∈ os, ∃ f, o = .filter f)
    (ih : ∀ f, .filter f ∈ os → ∀ n, ∃ e, cfg.Stands n f e) (n : Nat) :
    ∃ es, cfg.StandAll n os es := by
  induction os generalizing n with
  | nil => exact ⟨[], .nil, fun _ => rfl, rfl⟩
  | cons o os ihos =>
    obtain ⟨⟨f, rfl⟩, hrest⟩ := List.forall_mem_cons.mp hos
    obtain ⟨e, he⟩ := ih f List.mem_cons_self n
    obtain ⟨es, hes⟩ := ihos hrest (fun g hg => ih g (List.mem_cons_of_mem _ hg)) (n + f.comparisons.length)
    exact ⟨e :: es, .cons he hes⟩

/-- Operands that there are stand for a chain that is not empty. -/
lemma exists_chain {os : List Operand} (hne : os ≠ []) (hos : ∀ o ∈ os, ∃ f, o = .filter f)
    (ih : ∀ f, .filter f ∈ os → ∀ n, ∃ e, cfg.Stands n f e) (n : Nat) :
    ∃ e es, cfg.StandAll n os (e :: es) := by
  obtain ⟨es, hes⟩ := exists_standAll hos ih n
  cases es with
  | cons e es => exact ⟨e, es, hes⟩
  | nil =>
    obtain ⟨o, os, rfl⟩ := List.exists_cons_of_ne_nil hne
    obtain ⟨f, rfl⟩ := hos o List.mem_cons_self
    nomatch hes.reads

lemma Stands.atom {c : Comparison} {n : Nat} {a : Atom} (ha : cfg.atom? c (n + 1) = some a)
    (hn : IsName (cfg.resolve c.selector)) : cfg.Stands n (.comparison c) (.atom a) where
  reads rest hr := by
    have ht : cfg.builtIn.render cfg.format n (.comparison c) = a.text cfg.format := builtInText_eq_atom ha
    obtain ⟨op, -, rfl⟩ := Option.map_eq_some_iff.mp ha
    exact ht ▸ Atom.reads cfg.format hn hr
  holds σ := by
    obtain ⟨op, -, rfl⟩ := Option.map_eq_some_iff.mp ha
    rfl
  atoms := by
    simp [Factor.atoms, Filter.comparisons, ha]

/-- Without plugins, a comparison compiles under a built-in operator only. -/
lemma exists_atom? (hp : cfg.plugins = ∅) {c : Comparison} (hc : c.Accepted cfg) (n : Nat) :
    ∃ a, cfg.atom? c n = some a := by
  have hk : Operator.isKnown c.operator = true := by
    refine Operator.isKnown_iff.mpr (hc.operator.resolve_right ?_)
    rw [hp]
    exact fun ⟨_, hm, _⟩ => nomatch hm
  obtain ⟨op, ho⟩ := Option.isSome_iff_exists.mp hk
  exact ⟨_, Option.map_eq_some_iff.mpr ⟨op, ho, rfl⟩⟩

/-- A conjunction or a disjunction is a chain in parentheses. -/
lemma StandAll.paren {k : Connective} {n : Nat} {os : List Operand} {e : Factor} {es : List Factor}
    {w : Word} {c : Condition} (h : cfg.StandAll n os (e :: es))
    (hw : k.wrap cfg.format (cfg.builtIn.renderAll cfg.format n os) = "(" ++ String.intercalate
      (" " ++ cfg.format.keyword w.keyword ++ " ") (cfg.builtIn.renderAll cfg.format n os) ++ ")")
    (ht : c.tokens = [Token.word w].intercalate ((e :: es).map Factor.tokens))
    (hv : ∀ σ, c.holds σ = k.holds ((e :: es).map (Factor.holds σ)))
    (ha : c.atoms = (e :: es).flatMap Factor.atoms) :
    cfg.Stands n (.group k os) (.paren c) where
  reads rest hr := by
    rw [Phrasing.render, hw, Factor.tokens, ht]
    exact (reads_intercalate cfg.format w h.reads ends_closing).parenthesized
  holds σ := by
    rw [Factor.holds, hv, h.holds, Filter.holds]
  atoms := by
    rw [Factor.atoms, ha, h.atoms, Filter.comparisons]

/-- A negation keeps its operand in parentheses. -/
lemma Stands.not {n : Nat} {f : Filter} {e : Factor} (h : cfg.Stands n f e) :
    cfg.Stands n (.group .not [.filter f]) (.not (.paren (.last (.last e)))) where
  reads rest hr := by
    have ht : cfg.builtIn.render cfg.format n (.group .not [.filter f]) =
        cfg.format.keyword .not ++ ("(" ++ cfg.builtIn.render cfg.format n f ++ ")") := by
      simp [Phrasing.render, Phrasing.renderAll, Connective.wrap, String.append_assoc]
    rw [ht]
    exact (reads_keyword cfg.format .not (by simp [Ends, isNameChar])).append
      (h.reads _ ends_closing).parenthesized
  holds σ := by
    simp [Factor.holds, Condition.holds, Term.holds, h.holds, Filter.holds, Operand.holds, Connective.holds]
  atoms := by
    simp [Factor.atoms, Condition.atoms, Term.atoms, h.atoms, Filter.comparisons, Operand.comparisons]

/-- Every filter that compiles under names is a factor. -/
theorem exists_stands (hp : cfg.plugins = ∅) {f : Filter} (hf : f.Accepted cfg) (hn : cfg.Names f) (n : Nat) :
    ∃ e, cfg.Stands n f e := by
  induction f using Filter.induction generalizing n with
  | comparison c =>
    obtain ⟨a, ha⟩ := exists_atom? hp (Filter.accepted_comparison_iff.mp hf) (n + 1)
    exact ⟨_, .atom ha (hn c (by simp [Filter.comparisons]))⟩
  | group k os ih =>
    obtain ⟨hk, hos⟩ := Filter.accepted_group_iff.mp hf
    have ih (f : Filter) (hm : .filter f ∈ os) (n : Nat) : ∃ e, cfg.Stands n f e :=
      ih f hm (hos f hm) (fun c hc => hn c (Operand.mem_comparisons_iff.mpr ⟨f, hm, hc⟩)) n
    cases k with
    | and =>
      obtain ⟨e, es, h⟩ := exists_chain hk.1 hk.2 ih n
      exact ⟨_, h.paren (w := .and) (c := .last (Term.all e es)) rfl (Term.tokens_all e es)
        (Term.holds_all e es) (Term.atoms_all e es)⟩
    | or =>
      obtain ⟨e, es, h⟩ := exists_chain hk.1 hk.2 ih n
      exact ⟨_, h.paren (w := .or) rfl (Condition.tokens_any e es) (Condition.holds_any e es)
        (Condition.atoms_any e es)⟩
    | not =>
      obtain ⟨f, rfl⟩ := hk
      obtain ⟨e, h⟩ := ih f List.mem_cons_self n
      exact ⟨_, h.not⟩

/-- The text of a filter is a condition in exactly one way. Whatever values the placeholders are given, this
condition has that of the filter; and its atoms are the comparisons in reading order, each with the number
of the value that is bound for it. -/
theorem predicate_means (hp : cfg.plugins = ∅) {f : Filter} (hn : cfg.Names f) {p q : Params} {s : String}
    (h : cfg.predicate (some f) p = .ok s q) :
    ∃ e, Parses s e ∧ (∀ d, Parses s d → d = e) ∧ (∀ σ, e.holds σ = f.holds σ p.size) ∧
      e.atoms.map some = (f.comparisons.zipIdx (p.size + 1)).map (fun (c, i) => cfg.atom? c i) ∧
      q = p.append (f.comparisons.map cfg.selectors.bound) := by
  obtain ⟨e, he⟩ := exists_stands hp (accepted_of_predicate_eq_ok h) hn p.size
  obtain ⟨rfl, hq⟩ := Phrasing.compile_eq_render (builtIn_describes hp) f (of_predicate_eq_ok h).2
  have hparse : Parses _ (.last (.last e)) := (he.reads [] rfl).lex_eq
  rw [valuesOf_builtIn] at hq
  exact ⟨_, hparse, fun d hd => hd.unique hparse, he.holds, he.atoms, hq⟩

/-- The listing of users in small letters, with space around symbols. -/
def quiet : Config := { users with format := { lowerCase := true, detached := true } }

theorem predicate_means_users :
    let f : Filter := .or [.not (.and [.comparison ⟨"name", "!=", ["Al*"]⟩]),
      .and [.comparison ⟨"tier", "=out=", ["TIN"]⟩, .not (.not (.comparison ⟨"points", "<=", ["10"]⟩))]]
    let s := "(not((u.name not ilike $2)) or (u.tier not in $3 and not(not(points <= $4))))"
    let p : Params := ⟨[.text "base"]⟩
    let q : Params := ⟨[.text "base", .text "Al%", .texts ["TIN"], .number (.int 10)]⟩
    quiet.plugins = ∅ ∧ quiet.Names f ∧ quiet.predicate (some f) p = .ok s q ∧
      ∃ e, Parses s e ∧ (∀ d, Parses s d → d = e) ∧ (∀ σ, e.holds σ = f.holds σ p.size) ∧
        e.atoms.map some = (f.comparisons.zipIdx (p.size + 1)).map (fun (c, i) => quiet.atom? c i) ∧
        q = p.append (f.comparisons.map quiet.selectors.bound) :=
  ⟨rfl, by decide, rfl, predicate_means rfl (by decide) rfl⟩

end Config
end Listing
