import Listing.Proofs.Stateless

/-! Operands and cursors stay out of the text. Two requests of one shape give the same text, however long
their operand lists are and whatever their operands and cursors hold. -/
namespace Listing

mutual

/-- The same groups around comparisons that are related one by one. -/
def Filter.Alike (R : Comparison → Comparison → Prop) : Filter → Filter → Prop
  | .comparison c, .comparison d => R c d
  | .group k os, .group l ps => k = l ∧ Operand.Alike R os ps
  | _, _ => False

def Operand.Alike (R : Comparison → Comparison → Prop) : List Operand → List Operand → Prop
  | [], [] => True
  | .filter f :: os, .filter g :: ps => Filter.Alike R f g ∧ Operand.Alike R os ps
  | .stray _ :: os, .stray _ :: ps => Operand.Alike R os ps
  | _, _ => False

end

namespace Phrasing
variable {φ ψ : Phrasing} {fmt : Format} {R : Comparison → Comparison → Prop}

/-- Related comparisons have equal texts, and bind equally many values. -/
def Matches (φ ψ : Phrasing) (R : Comparison → Comparison → Prop) : Prop :=
  ∀ {c d}, R c d → (∀ n, φ.text n c = ψ.text n d) ∧ (φ.values c).length = (ψ.values d).length

mutual

/-- Then so have and do filters in which related comparisons stand in the same places. -/
theorem render_congr (hR : φ.Matches ψ R) (n : Nat) :
    (f g : Filter) → f.Alike R g →
    φ.render fmt n f = ψ.render fmt n g ∧ (φ.valuesOf f).length = (ψ.valuesOf g).length
  | .comparison c, .comparison d, h => by
    obtain ⟨ht, hv⟩ := hR h
    exact ⟨ht n, by simpa using hv⟩
  | .group k os, .group _ ps, ⟨rfl, h⟩ => by
    obtain ⟨ht, hv⟩ := renderAll_congr hR n os ps h
    exact ⟨by rw [render, render, ht], hv⟩

theorem renderAll_congr (hR : φ.Matches ψ R) (n : Nat) :
    (os ps : List Operand) → Operand.Alike R os ps →
    φ.renderAll fmt n os = ψ.renderAll fmt n ps ∧
      ((Operand.comparisons os).flatMap φ.values).length =
        ((Operand.comparisons ps).flatMap ψ.values).length
  | [], [], _ => ⟨rfl, rfl⟩
  | .stray _ :: os, .stray _ :: ps, h => renderAll_congr hR n os ps h
  | .filter f :: os, .filter g :: ps, ⟨hf, hos⟩ => by
    obtain ⟨ht, hv⟩ := render_congr hR n f g hf
    -- the operands behind `f` and `g` start at one number, as both bind equally many values
    obtain ⟨hts, hvs⟩ := renderAll_congr hR (n + (φ.valuesOf f).length) os ps hos
    refine ⟨by rw [renderAll, renderAll, ht, hts, hv], ?_⟩
    simp only [Operand.comparisons, List.flatMap_append, List.length_append, hvs]
    rw [show (f.comparisons.flatMap φ.values).length = _ from hv]
    rfl

end

end Phrasing

/-- Two comparisons that may differ in their operands only. Where an operand decides what is written, so
far they agree: whether there is a wildcard at an end, and what a flag says. -/
structure Comparison.SameShape (cfg : Config) (c d : Comparison) : Prop where
  selector : c.selector = d.selector
  operator : c.operator = d.operator
  wildcard : cfg.plugins.find? c.operator = none → c.operator = "==" ∨ c.operator = "!=" →
    c.hasWildcard = d.hasWildcard
  flag : ∀ s : Plugin.Stock, s.isFlag = true → Text.sameIgnoringCase s.token c.operator = true →
    c.firstOperand = d.firstOperand

/-- Two requests that may differ in their operands and in what their cursors hold. -/
structure Request.SameShape (cfg : Config) (r t : Request) : Prop where
  filter : Option.Rel (Filter.Alike (Comparison.SameShape cfg)) r.filter t.filter
  sort : r.sort = t.sort
  cursor : (Config.startOf r.cursor).isSome = (Config.startOf t.cursor).isSome

lemma Operator.token_of_parse? {token : String} {op : Operator} (h : parse? token = some op)
    (ho : op = .eq ∨ op = .ne) : token = "==" ∨ token = "!=" := by
  have hm := mem_spellings_of_parse? h
  rcases ho with rfl | rfl
  · exact .inl (List.mem_singleton.mp hm)
  · exact .inr (List.mem_singleton.mp hm)

lemma Operator.sign_eq {fmt : Format} {op : Operator} {v w : Bool}
    (h : op = .eq ∨ op = .ne → v = w) : op.sign fmt v = op.sign fmt w := by
  cases op with
  | eq => rw [h (.inl rfl)]
  | ne => rw [h (.inr rfl)]
  | lt | le | gt | ge | in_ | out => rfl

namespace Config
variable {cfg : Config} {c d : Comparison}

lemma builtInText_eq (h : c.SameShape cfg d) (hf : cfg.plugins.find? c.operator = none) (n : Nat) :
    cfg.builtInText n c = cfg.builtInText n d := by
  unfold builtInText
  rw [← h.selector, ← h.operator]
  cases ho : Operator.parse? c.operator with
  | none => rfl
  | some op =>
    have hs := @Operator.sign_eq cfg.format op _ _ fun he =>
      h.wildcard hf (Operator.token_of_parse? ho he)
    simp only [Option.map_some, hs]

lemma stockText_eq (h : c.SameShape cfg d) {s : Plugin.Stock}
    (hh : s.plugin.handles c.operator = true) (n : Nat) :
    s.text (cfg.call c) n = s.text (cfg.call d) n := by
  have hc : (cfg.call c).column = (cfg.call d).column := congrArg cfg.resolve h.selector
  rw [Plugin.handles, Plugin.Stock.token_plugin] at hh
  exact Plugin.Stock.text_congr hc rfl fun hf => h.flag s hf hh

/-- A comparison's own text says nothing of what it binds. -/
lemma phrasing_matches (hs : cfg.StockOnly) :
    cfg.phrasing.Matches cfg.phrasing (Comparison.SameShape cfg) := by
  intro c d h
  have hd : cfg.stock? d = cfg.stock? c := by rw [stock?, stock?, h.operator]
  cases hc : cfg.stock? c with
  | none =>
    rw [hc] at hd
    refine ⟨fun n => ?_, by simp [phrasing, hc, hd, builtIn]⟩
    simpa [phrasing, hc, hd, builtIn] using builtInText_eq h (hs.find?_eq_none hc) (n + 1)
  | some s =>
    rw [hc] at hd
    refine ⟨fun n => ?_, ?_⟩
    · simpa only [phrasing, hc, hd] using stockText_eq h (handles_of_stock?_eq_some hc) n
    · simp only [phrasing, hc, hd, Plugin.Stock.values]
      split <;> rfl

lemma predicateAfter_eq {f g : Option Filter} (hs : cfg.StockOnly)
    (h : Option.Rel (Filter.Alike (Comparison.SameShape cfg)) f g) (n : Nat) :
    cfg.predicateAfter n f = cfg.predicateAfter n g ∧ cfg.width f = cfg.width g := by
  cases h with
  | none => exact ⟨rfl, rfl⟩
  | some h => exact Phrasing.render_congr (phrasing_matches hs) n _ _ h

lemma fragmentAfter_eq {r t : Request} (hs : cfg.StockOnly) (h : r.SameShape cfg t) (n : Nat) :
    cfg.fragmentAfter n r = cfg.fragmentAfter n t := by
  obtain ⟨hp, hw⟩ := predicateAfter_eq hs h.filter n
  have ho : cfg.orderAfter (n + cfg.width r.filter) r.sort r.cursor =
      cfg.orderAfter (n + cfg.width t.filter) t.sort t.cursor := by
    rw [orderAfter, orderAfter, hw, h.sort, h.cursor]
  rw [fragmentAfter, fragmentAfter, hp, ho]

/-- With stock plugins, operands and cursors do not reach the text of a query: requests of one shape that
both succeed, behind equally many values, have equal texts. -/
theorem query_text_eq_of_sameShape {r t : Request} {p p' q q' : Params} {s s' : String}
    (hs : cfg.StockOnly) (hr : r.SameShape cfg t) (hp : p.size = p'.size)
    (h : cfg.query r p = .ok s q) (h' : cfg.query t p' = .ok s' q') : s = s' := by
  obtain ⟨-, -, -, rfl⟩ := (query_computes hs r).of_eq_ok h
  obtain ⟨-, -, -, rfl⟩ := (query_computes hs t).of_eq_ok h'
  rw [hp, fragmentAfter_eq hs hr]

/-- The listing of users with two stock plugins. -/
def stockUsers : Config :=
  { users with plugins := ⟨[Plugin.Stock.anyOf.plugin, Plugin.Stock.isNull.plugin]⟩ }

theorem query_text_eq_of_sameShape_users :
    let r : Request := ⟨some (.or [.comparison ⟨"name", "==", ["*ice"]⟩,
      .not (.comparison ⟨"name", "=in=", ["Al"]⟩), .comparison ⟨"points", "=NULL=", ["true"]⟩]),
      [⟨"name", .asc⟩], some "WyJBbm4iXQ"⟩
    let t : Request := ⟨some (.or [.comparison ⟨"name", "==", ["Bo'*", "Cy"]⟩,
      .not (.comparison ⟨"name", "=in=", ["Bo", "Cy"]⟩), .comparison ⟨"points", "=NULL=", ["true"]⟩]),
      [⟨"name", .asc⟩], some "WyJab2UnLS0iXQ"⟩
    ∃ s q q', r.SameShape stockUsers t ∧ stockUsers.query r ⟨[.text "a"]⟩ = .ok s q ∧
      stockUsers.query t ⟨[.text "b"]⟩ = .ok s q' := by
  intro r t
  have hs : stockUsers.StockOnly := by
    intro p hp
    simp only [stockUsers, List.mem_cons, List.not_mem_nil, or_false] at hp
    rcases hp with rfl | rfl <;> exact ⟨_, rfl⟩
  have hr : r.SameShape stockUsers t := by
    refine ⟨.some ⟨rfl, ⟨rfl, rfl, fun _ _ => by decide, ?_⟩,
      ⟨rfl, ⟨rfl, rfl, fun _ h => absurd h (by decide), ?_⟩, trivial⟩,
      ⟨rfl, rfl, fun _ _ => rfl, fun _ _ _ => rfl⟩, trivial⟩, rfl, by decide +kernel⟩
    all_goals
      intro s
      cases s <;> decide
  obtain ⟨s, q, h⟩ := (query_computes hs r).succeeds (by decide +kernel) ⟨[.text "a"]⟩
  obtain ⟨s', q', h'⟩ := (query_computes hs t).succeeds (by decide +kernel) ⟨[.text "b"]⟩
  obtain rfl := query_text_eq_of_sameShape hs hr (by rfl) h h'
  exact ⟨s, q, q', hr, h, h'⟩

end Config
end Listing
