/-! Filters as parsed from RSQL: comparisons, and groups of them under a connective. -/
namespace Listing

inductive Connective where
  | and | or | not
  deriving DecidableEq, Repr

def Connective.name : Connective → String
  | and => "and"
  | or => "or"
  | not => "not"

/-- One test of a field. Only list operators use more than the first operand. -/
structure Comparison where
  selector : String
  operator : String
  operands : List String := []
  deriving DecidableEq, Repr

/-- An absent operand counts as an empty one. -/
def Comparison.firstOperand (c : Comparison) : String := c.operands.headD ""

theorem Comparison.exists_operands {c : Comparison} (h : c.firstOperand ≠ "") :
    ∃ os, c.operands = c.firstOperand :: os := by
  cases ho : c.operands with
  | nil => simp [firstOperand, ho] at h
  | cons o os => exact ⟨os, by simp [firstOperand, ho]⟩

mutual

inductive Filter where
  | comparison (c : Comparison)
  | group (k : Connective) (operands : List Operand)

/-- What a parser may put into a group. A bare text is never valid there. -/
inductive Operand where
  | filter (f : Filter)
  | stray (s : String)

end

mutual

def Filter.decEq : (f g : Filter) → Decidable (f = g)
  | .comparison c, .comparison d => decidable_of_iff (c = d) (by simp)
  | .group k os, .group l ps =>
    match Operand.decEqList os ps with
    | .isTrue h => decidable_of_iff (k = l) (by simp [h])
    | .isFalse h => .isFalse (by simp [h])
  | .comparison _, .group .. => .isFalse (by simp)
  | .group .., .comparison _ => .isFalse (by simp)

def Operand.decEqList : (os ps : List Operand) → Decidable (os = ps)
  | [], [] => .isTrue rfl
  | o :: os, p :: ps =>
    match Operand.decEq o p with
    | .isTrue h =>
      match Operand.decEqList os ps with
      | .isTrue hs => .isTrue (by rw [h, hs])
      | .isFalse hs => .isFalse (by simp [hs])
    | .isFalse h => .isFalse (by simp [h])
  | [], _ :: _ => .isFalse (by simp)
  | _ :: _, [] => .isFalse (by simp)

def Operand.decEq : (o p : Operand) → Decidable (o = p)
  | .filter f, .filter g =>
    match Filter.decEq f g with
    | .isTrue h => .isTrue (by rw [h])
    | .isFalse h => .isFalse (by simp [h])
  | .stray s, .stray t => decidable_of_iff (s = t) (by simp)
  | .filter _, .stray _ => .isFalse (by simp)
  | .stray _, .filter _ => .isFalse (by simp)

end

instance : DecidableEq Filter := Filter.decEq
instance : DecidableEq Operand := Operand.decEq

namespace Filter

def groupOf (k : Connective) (fs : List Filter) : Filter := .group k (fs.map .filter)

def and (fs : List Filter) : Filter := groupOf .and fs

def or (fs : List Filter) : Filter := groupOf .or fs

def not (f : Filter) : Filter := groupOf .not [f]

def asComparison? : Filter → Option Comparison
  | comparison c => some c
  | group .. => none

end Filter

/-- A property of all filters holds if it holds of comparisons, and of a group whenever it holds of the
filters among its operands. -/
@[elab_as_elim]
theorem Filter.induction {P : Filter → Prop} (comparison : ∀ c, P (.comparison c))
    (group : ∀ k os, (∀ f, .filter f ∈ os → P f) → P (.group k os)) (f : Filter) : P f :=
  go f
where
  go : (f : Filter) → P f
    | .comparison c => comparison c
    | .group k os => group k os (goList os)
  goList : (os : List Operand) → ∀ f, .filter f ∈ os → P f
    | [], _, h => nomatch h
    | o :: os, f, h => by
      rcases List.mem_cons.1 h with h | h
      · exact goOperand o f h
      · exact goList os f h
  goOperand : (o : Operand) → ∀ f, .filter f = o → P f
    | .filter g, _, h => by cases h; exact go g
    | .stray _, _, h => nomatch h

end Listing
