import Listing.Predicate
import Listing.Proofs.Occurrence
import Listing.Proofs.Runs

/-! Compilation without the list of values. Where comparisons are numbered by counting those before
them, the text of a filter and the values it binds are plain functions of the filter; compilation,
which threads one list through all groups, computes both. -/
namespace Listing

/-- How comparisons are written. -/
structure Phrasing where
  /-- The values that a comparison binds. -/
  values : Comparison → List Value
  /-- Its text behind `n` values of others, where the next placeholder is `n + 1`. -/
  text : Nat → Comparison → String

/-- The text of a group, from those of its operands. -/
def Connective.wrap (fmt : Format) : Connective → List String → String
  | .and, parts => "(" ++ String.intercalate (" " ++ fmt.keyword .and ++ " ") parts ++ ")"
  | .or, parts => "(" ++ String.intercalate (" " ++ fmt.keyword .or ++ " ") parts ++ ")"
  | .not, parts => fmt.keyword .not ++ "(" ++ String.join parts ++ ")"

namespace Phrasing
variable (φ : Phrasing) (fmt : Format)

def valuesOf (f : Filter) : List Value := f.comparisons.flatMap φ.values

mutual

/-- The text of a filter behind `n` values. -/
def render (n : Nat) : Filter → String
  | .comparison c => φ.text n c
  | .group k os => k.wrap fmt (renderAll n os)

/-- Each operand stands behind the values of those before it. -/
def renderAll (n : Nat) : List Operand → List String
  | [] => []
  | .filter f :: os => render n f :: renderAll (n + (φ.valuesOf f).length) os
  | .stray _ :: os => renderAll n os

end

/-- Comparisons that compile are written in this way. -/
def Describes (cfg : Config) : Prop :=
  ∀ {c : Comparison} {p q : Params} {s : String}, cfg.compileComparison c p = .ok s q →
    s = φ.text p.size c ∧ q = p.append (φ.values c)

end Phrasing

namespace Config
variable {cfg : Config}

/-- The pattern of a single operand hides this case from computation. -/
lemma compile_not_cons_cons (cfg : Config) (o₁ o₂ : Operand) (os : List Operand) :
    cfg.compile (.group .not (o₁ :: o₂ :: os)) =
      throw (.unsupportedFilter ("not with " ++ toString (os.length + 2) ++ " operands")) := by
  simp [compile]

/-- All that the compilation of a group can do when it succeeds. -/
lemma of_compile_group_eq_ok {k : Connective} {os : List Operand} {p q : Params} {s : String}
    (h : cfg.compile (.group k os) p = .ok s q) :
    (∃ parts, k ≠ .not ∧ cfg.compileAll os p = .ok parts q ∧ s = k.wrap cfg.format parts) ∨
      ∃ f t, k = .not ∧ os = [.filter f] ∧ cfg.validate f = .ok () ∧ cfg.compile f p = .ok t q ∧
        s = k.wrap cfg.format [t] := by
  cases k with
  | and =>
    obtain ⟨parts, w, hc, hs⟩ := Binding.of_bind_eq_ok h
    cases hs
    exact .inl ⟨parts, by decide, hc, rfl⟩
  | or =>
    obtain ⟨parts, w, hc, hs⟩ := Binding.of_bind_eq_ok h
    cases hs
    exact .inl ⟨parts, by decide, hc, rfl⟩
  | not =>
    match os with
    | [] => simp [compile] at h
    | [.stray _] => simp [compile] at h
    | _ :: _ :: _ => simp [compile_not_cons_cons] at h
    | [.filter f] =>
      obtain ⟨⟨⟩, w, hv, hr⟩ := Binding.of_bind_eq_ok h
      obtain ⟨t, v, hc, hs⟩ := Binding.of_bind_eq_ok hr
      cases hs
      obtain ⟨hval, rfl⟩ := Binding.of_ofExcept_eq_ok hv
      exact .inr ⟨f, t, rfl, rfl, hval, hc, by simp [Connective.wrap]⟩

lemma of_compileAll_cons_eq_ok {o : Operand} {os : List Operand} {p q : Params} {parts : List String}
    (h : cfg.compileAll (o :: os) p = .ok parts q) :
    ∃ f t w rest, o = .filter f ∧ cfg.compile f p = .ok t w ∧ cfg.compileAll os w = .ok rest q ∧
      parts = t :: rest := by
  cases o with
  | stray s => nomatch h
  | filter f =>
    obtain ⟨t, w, hf, hr⟩ := Binding.of_bind_eq_ok h
    obtain ⟨rest, v, hos, hs⟩ := Binding.of_bind_eq_ok hr
    cases hs
    exact ⟨f, t, w, rest, rfl, hf, hos, rfl⟩

lemma of_predicate_eq_ok {f : Filter} {p q : Params} {s : String}
    (h : cfg.predicate (some f) p = .ok s q) : cfg.validate f = .ok () ∧ cfg.compile f p = .ok s q := by
  obtain ⟨⟨⟩, w, hv, hc⟩ := Binding.of_bind_eq_ok (Binding.of_restoring_eq_ok h)
  obtain ⟨hval, rfl⟩ := Binding.of_ofExcept_eq_ok hv
  exact ⟨hval, hc⟩

end Config

namespace Phrasing
variable {φ : Phrasing} {cfg : Config}

@[simp] lemma valuesOf_comparison (c : Comparison) : φ.valuesOf (.comparison c) = φ.values c := by
  simp [valuesOf, Filter.comparisons]

lemma valuesOf_group (k : Connective) (os : List Operand) :
    φ.valuesOf (.group k os) = (Operand.comparisons os).flatMap φ.values := rfl

mutual

/-- One list threaded through the whole filter numbers the placeholders as counting does. The offset is
general: a group is entered with the values of all that stands before it. -/
theorem compile_eq_render (hφ : φ.Describes cfg) {p q : Params} {s : String} : (f : Filter) →
    cfg.compile f p = .ok s q →
    s = φ.render cfg.format p.size f ∧ q = p.append (φ.valuesOf f)
  | .comparison c, h => by
    rw [valuesOf_comparison]
    exact hφ h
  | .group k os, h => by
    rcases Config.of_compile_group_eq_ok h with ⟨parts, -, hc, rfl⟩ | ⟨f, t, rfl, rfl, -, hc, rfl⟩
    · obtain ⟨rfl, rfl⟩ := compileAll_eq_renderAll hφ os hc
      exact ⟨by rw [render], by rw [valuesOf_group]⟩
    · obtain ⟨rfl, rfl⟩ := compile_eq_render hφ f hc
      exact ⟨by simp only [render, renderAll], by simp [valuesOf, Filter.comparisons, Operand.comparisons]⟩

theorem compileAll_eq_renderAll (hφ : φ.Describes cfg) {p q : Params} {parts : List String} :
    (os : List Operand) → cfg.compileAll os p = .ok parts q →
    parts = φ.renderAll cfg.format p.size os ∧
      q = p.append ((Operand.comparisons os).flatMap φ.values)
  | [], h => by
    cases h
    simp [renderAll, Operand.comparisons]
  | o :: os, h => by
    obtain ⟨f, t, w, rest, rfl, hf, hos, rfl⟩ := Config.of_compileAll_cons_eq_ok h
    obtain ⟨rfl, rfl⟩ := compile_eq_render hφ f hf
    obtain ⟨rfl, rfl⟩ := compileAll_eq_renderAll hφ os hos
    refine ⟨by rw [renderAll, Params.size_append], ?_⟩
    simp [valuesOf, Operand.comparisons, Params.append_append]

end

end Phrasing
end Listing
