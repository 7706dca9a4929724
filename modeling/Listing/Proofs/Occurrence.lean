import Listing.Filter
import Mathlib.Tactic.Lemma

/-! What occurs in a filter, at any depth: its comparisons in reading order, and its parts. -/
namespace Listing

mutual

/-- The comparisons of a filter in reading order, through all groups. -/
def Filter.comparisons : Filter → List Comparison
  | .comparison c => [c]
  | .group _ os => Operand.comparisons os

def Operand.comparisons : List Operand → List Comparison
  | [] => []
  | .filter f :: os => f.comparisons ++ Operand.comparisons os
  | .stray _ :: os => Operand.comparisons os

end

/-- A filter stands somewhere in another one, or is all of it. -/
inductive Filter.Within : Filter → Filter → Prop
  | whole (f : Filter) : Within f f
  | operand {g f : Filter} {k : Connective} {os : List Operand} (mem : .filter f ∈ os)
      (inner : Within g f) : Within g (.group k os)

namespace Filter

lemma within_comparison_iff {g : Filter} {c : Comparison} :
    Within g (.comparison c) ↔ g = .comparison c := by
  constructor
  · rintro ⟨⟩
    rfl
  · rintro rfl
    exact .whole _

lemma within_group_iff {g : Filter} {k : Connective} {os : List Operand} :
    Within g (.group k os) ↔ g = .group k os ∨ ∃ f, .filter f ∈ os ∧ Within g f := by
  constructor
  · rintro (_ | ⟨mem, inner⟩)
    · exact .inl rfl
    · exact .inr ⟨_, mem, inner⟩
  · rintro (rfl | ⟨f, mem, inner⟩)
    · exact .whole _
    · exact .operand mem inner

lemma Within.trans {e f g : Filter} (h : Within e f) (hf : Within f g) : Within e g := by
  induction hf with
  | whole => exact h
  | operand mem _ ih => exact .operand mem ih

end Filter

lemma Operand.mem_comparisons_iff {c : Comparison} {os : List Operand} :
    c ∈ Operand.comparisons os ↔ ∃ f, .filter f ∈ os ∧ c ∈ f.comparisons := by
  induction os with
  | nil => simp [Operand.comparisons]
  | cons o os ih => cases o <;> simp [Operand.comparisons, ih]

/-- The list of comparisons misses none. -/
theorem Filter.mem_comparisons_iff {c : Comparison} {f : Filter} :
    c ∈ f.comparisons ↔ Within (.comparison c) f := by
  induction f using Filter.induction with
  | comparison d => simp [comparisons, within_comparison_iff]
  | group k os ih =>
    rw [within_group_iff, comparisons, Operand.mem_comparisons_iff]
    constructor
    · rintro ⟨f, mem, hc⟩
      exact .inr ⟨f, mem, (ih f mem).mp hc⟩
    · rintro (h | ⟨f, mem, hc⟩)
      · nomatch h
      · exact ⟨f, mem, (ih f mem).mpr hc⟩

end Listing
