import Listing.Plugin.Stock
import Listing.Proofs.BuiltIn

/-! Comparisons where the stock plugins, or some of them, are registered. What such a plugin binds does not
depend on the list, and its text depends on the list by the number of its values only. -/
namespace Listing

lemma Registry.handles_of_find?_eq_some {r : Registry} {p : Plugin} {token : String}
    (h : r.find? token = some p) : p ∈ r.plugins ∧ p.handles token = true :=
  ⟨List.mem_of_find?_eq_some h, List.find?_some (p := fun q : Plugin => q.handles token) h⟩

namespace Plugin.Stock

/-- The operand is a flag, and no value is bound. -/
def isFlag : Stock → Bool
  | anyOf | noneOf => false
  | isNull | isEmpty | isNullOrEmpty => true

def values (s : Stock) (c : Call) : List Value := if s.isFlag then [] else [c.coerce true]

/-- The text behind `n` values. -/
def text (s : Stock) (c : Call) (n : Nat) : String :=
  match s with
  | anyOf => c.column ++ " = " ++ c.format.keyword .any ++ "(" ++ Placeholder.text ⟨n + 1⟩ ++ ")"
  | noneOf => c.column ++ " <> " ++ c.format.keyword .all ++ "(" ++ Placeholder.text ⟨n + 1⟩ ++ ")"
  | isNull => nullTest (c.comparison.firstOperand == "false") c
  | isEmpty => emptyTest (c.comparison.firstOperand != "true") c
  | isNullOrEmpty => nullOrEmptyTest (c.comparison.firstOperand == "false") c

/-- Of the operands, a text shows a flag and nothing else. -/
lemma text_congr {s : Stock} {c d : Call} {n : Nat} (hc : c.column = d.column)
    (hf : c.format = d.format)
    (ho : s.isFlag = true → c.comparison.firstOperand = d.comparison.firstOperand) :
    s.text c n = s.text d n := by
  cases s with
  | anyOf | noneOf => simp only [text, hc, hf]
  | isNull => simp only [text, nullTest, hc, hf, ho rfl]
  | isEmpty => simp only [text, emptyTest, hc, ho rfl]
  | isNullOrEmpty => simp only [text, nullOrEmptyTest, nullTest, emptyTest, hc, hf, ho rfl]

lemma render_run (s : Stock) (c : Call) (p : Params) :
    s.plugin.render c p = (s.text c p.size, p.append (s.values c)) := by
  cases s with
  | anyOf =>
    have hb : " = " = " " ++ ("=" ++ " ") := rfl
    refine Prod.ext ?_ rfl
    simp only [text, hb, ← String.append_assoc]
    rfl
  | noneOf =>
    have hb : " <> " = " " ++ ("<>" ++ " ") := rfl
    refine Prod.ext ?_ rfl
    simp only [text, hb, ← String.append_assoc]
    rfl
  | isNull | isEmpty | isNullOrEmpty => exact Prod.ext rfl (Params.append_nil p).symm

def all : List Stock := [anyOf, noneOf, isNull, isEmpty, isNullOrEmpty]

/-- The stock plugin that handles an operator. -/
def of? (token : String) : Option Stock := all.find? (·.plugin.handles token)

lemma eq_of_handles {s t : Stock} {token : String} (hs : s.plugin.handles token = true)
    (ht : t.plugin.handles token = true) : s = t := by
  have h : s.token.toList.map Char.toLower = t.token.toList.map Char.toLower := by
    simp only [handles, Text.sameIgnoringCase, token_plugin, beq_iff_eq] at hs ht
    rw [hs, ht]
  revert h
  cases s <;> cases t <;> decide

lemma of?_eq_some_iff {s : Stock} {token : String} :
    of? token = some s ↔ s.plugin.handles token = true := by
  constructor
  · intro h
    exact List.find?_some (p := fun t : Stock => t.plugin.handles token) h
  · intro h
    have hm : s ∈ all := by cases s <;> decide
    have hf : (of? token).isSome = true := List.find?_isSome.mpr ⟨s, hm, h⟩
    obtain ⟨t, ht⟩ := Option.isSome_iff_exists.mp hf
    have hh : t.plugin.handles token = true :=
      List.find?_some (p := fun t : Stock => t.plugin.handles token) ht
    rw [ht, eq_of_handles hh h]

end Plugin.Stock

namespace Config
variable {cfg : Config}

/-- No plugins but stock ones are registered. -/
def StockOnly (cfg : Config) : Prop := ∀ p ∈ cfg.plugins.plugins, ∃ s : Plugin.Stock, p = s.plugin

/-- The stock plugin that writes a comparison, if the configuration has it. -/
def stock? (cfg : Config) (c : Comparison) : Option Plugin.Stock :=
  if (cfg.plugins.find? c.operator).isSome then Plugin.Stock.of? c.operator else none

def call (cfg : Config) (c : Comparison) : Plugin.Call :=
  ⟨cfg.resolve c.selector, c, cfg.selectors, cfg.format⟩

/-- Every comparison under its stock plugin or, without one, under its built-in operator. -/
def phrasing (cfg : Config) : Phrasing where
  values c :=
    match cfg.stock? c with
    | some s => s.values (cfg.call c)
    | none => cfg.builtIn.values c
  text n c :=
    match cfg.stock? c with
    | some s => s.text (cfg.call c) n
    | none => cfg.builtIn.text n c

lemma handles_of_stock?_eq_some {c : Comparison} {s : Plugin.Stock} (h : cfg.stock? c = some s) :
    s.plugin.handles c.operator = true := by
  unfold stock? at h
  split at h
  · exact Plugin.Stock.of?_eq_some_iff.mp h
  · nomatch h

lemma StockOnly.find?_eq_some {c : Comparison} {p : Plugin} (hs : cfg.StockOnly)
    (h : cfg.plugins.find? c.operator = some p) : ∃ s, p = s.plugin ∧ cfg.stock? c = some s := by
  obtain ⟨hm, hh⟩ := Registry.handles_of_find?_eq_some h
  obtain ⟨s, rfl⟩ := hs p hm
  exact ⟨s, rfl, by simp [stock?, h, Plugin.Stock.of?_eq_some_iff.mpr hh]⟩

lemma StockOnly.find?_eq_none {c : Comparison} (hs : cfg.StockOnly) (h : cfg.stock? c = none) :
    cfg.plugins.find? c.operator = none := by
  cases hf : cfg.plugins.find? c.operator with
  | none => rfl
  | some p =>
    obtain ⟨s, -, hc⟩ := hs.find?_eq_some hf
    rw [h] at hc
    nomatch hc

lemma phrasing_describes (hs : cfg.StockOnly) : cfg.phrasing.Describes cfg := by
  intro c p q s h
  cases hf : cfg.plugins.find? c.operator with
  | none =>
    have hc : cfg.stock? c = none := by simp [stock?, hf]
    simpa [phrasing, hc, builtIn] using of_compileComparison_builtIn hf h
  | some g =>
    obtain ⟨t, rfl, hc⟩ := hs.find?_eq_some hf
    simp only [compileComparison, runPlugin, hf] at h
    cases hk : t.plugin.check c with
    | error message =>
      rw [hk] at h
      nomatch h
    | ok =>
      rw [hk] at h
      simp only [Binding.ofState_run, Plugin.Stock.render_run] at h
      cases h
      simp [phrasing, hc, call]

end Config
end Listing
