import Listing.Plugin.Stock
import Listing.Plugin.Template
import Listing.Proofs.Ordering
import Listing.Proofs.Rendering
import Listing.Query

/-! Failing requests leave no trace. What a request binds goes to the end of the list, so that cutting
the list back to its former length restores it; and what fails outside such a cut has bound nothing. -/
namespace Listing

/-- The plugin binds values at the end of the list, and does nothing else to the list. -/
def Plugin.OnlyAppends (p : Plugin) : Prop := ∀ c, Binding.Grows (p.render c)

namespace Plugin

theorem Stock.onlyAppends (s : Stock) : s.plugin.OnlyAppends := by
  intro c
  cases s with
  | anyOf => exact (Binding.grows_place _).bind fun _ => Binding.grows_pure _
  | noneOf => exact (Binding.grows_place _).bind fun _ => Binding.grows_pure _
  | isNull => exact Binding.grows_pure _
  | isEmpty => exact Binding.grows_pure _
  | isNullOrEmpty => exact Binding.grows_pure _

lemma Part.grows_render (c : Call) (part : Part) : Binding.Grows (part.render c) := by
  cases part with
  | text | column | field | operator | keyword | mark => exact Binding.grows_pure _
  | upcoming => exact fun _ => List.prefix_rfl
  | first | single | list => exact (Binding.grows_place _).bind fun _ => Binding.grows_pure _
  | each =>
    exact (Binding.Grows.mapM (fun _ => Binding.grows_place _) _).bind fun _ => Binding.grows_pure _

/-- Plugins written down as rows of parts are of this kind, whatever the parts. -/
theorem onlyAppends_of_renderParts (token : String) (skips : Bool)
    (check : Comparison → Except String Unit) (ps : List Part) :
    OnlyAppends ⟨token, skips, check, renderParts ps⟩ := by
  intro c
  exact (Binding.Grows.mapM (Part.grows_render c) ps).bind fun _ => Binding.grows_pure _

end Plugin

namespace Config
variable {cfg : Config}

lemma appends_compileComparison (hp : ∀ p ∈ cfg.plugins.plugins, p.OnlyAppends) (c : Comparison) :
    (cfg.compileComparison c).Appends := by
  unfold compileComparison
  split
  · rename_i p hf
    unfold runPlugin
    split
    · exact (Binding.atomic_throw _).appends
    · exact (hp p (List.mem_of_find?_eq_some hf) _).atomic_ofState.appends
  · split
    · exact ((Binding.atomic_place _).bind_pure _).appends
    · exact (Binding.atomic_throw _).appends

mutual

/-- Every step of a compilation adds to the list, up to the point where it fails. -/
theorem appends_compile (hp : ∀ p ∈ cfg.plugins.plugins, p.OnlyAppends) :
    (f : Filter) → (cfg.compile f).Appends
  | .comparison c => appends_compileComparison hp c
  | .group .and os => (appends_compileAll hp os).bind fun _ => (Binding.atomic_pure _).appends
  | .group .or os => (appends_compileAll hp os).bind fun _ => (Binding.atomic_pure _).appends
  | .group .not [] => (Binding.atomic_throw _).appends
  | .group .not [.stray _] => (Binding.atomic_throw _).appends
  | .group .not [.filter f] => (Binding.atomic_ofExcept _).appends.bind fun _ =>
      (appends_compile hp f).bind fun _ => (Binding.atomic_pure _).appends
  | .group .not (o₁ :: o₂ :: os) => by
    rw [compile_not_cons_cons]
    exact (Binding.atomic_throw _).appends

theorem appends_compileAll (hp : ∀ p ∈ cfg.plugins.plugins, p.OnlyAppends) :
    (os : List Operand) → (cfg.compileAll os).Appends
  | [] => (Binding.atomic_pure _).appends
  | .filter f :: os => (appends_compile hp f).bind fun _ =>
      (appends_compileAll hp os).bind fun _ => (Binding.atomic_pure _).appends
  | .stray _ :: _ => (Binding.atomic_throw _).appends

end

lemma atomic_predicate (hp : ∀ p ∈ cfg.plugins.plugins, p.OnlyAppends) (f : Option Filter) :
    (cfg.predicate f).Atomic := by
  cases f with
  | none => exact Binding.atomic_pure _
  | some f =>
    exact ((Binding.atomic_ofExcept _).appends.bind fun _ => appends_compile hp f).restoring

/-- No rollback stands around an order, and none is needed: it is refused before it binds anything. -/
lemma atomic_orderBy (cfg : Config) (keys : List SortKey) (cursor : Option String) :
    (cfg.orderBy keys cursor).Atomic := (orderBy_computes cfg keys cursor).atomic

lemma atomic_fragment (hp : ∀ p ∈ cfg.plugins.plugins, p.OnlyAppends) (r : Request) :
    (cfg.fragment r).Atomic :=
  ((atomic_predicate hp r.filter).appends.bind fun _ =>
    (atomic_orderBy cfg r.sort r.cursor).appends.bind fun _ => (Binding.atomic_pure _).appends).restoring

/-- All four calls give back the list of a failed request value by value, at whatever point it failed, and
add to the list of a successful one, if each plugin is a stock one or one that only appends. -/
theorem calls_atomic (hp : ∀ p ∈ cfg.plugins.plugins,
      (∃ s : Plugin.Stock, p = s.plugin) ∨ p.OnlyAppends) :
    (∀ f, (cfg.predicate f).Atomic) ∧ (∀ keys cursor, (cfg.orderBy keys cursor).Atomic) ∧
      (∀ r, (cfg.fragment r).Atomic) ∧ ∀ r, (cfg.query r).Atomic := by
  have ha : ∀ p ∈ cfg.plugins.plugins, p.OnlyAppends := by
    intro p hm
    rcases hp p hm with ⟨s, rfl⟩ | h
    · exact s.onlyAppends
    · exact h
  exact ⟨atomic_predicate ha, atomic_orderBy cfg, atomic_fragment ha,
    fun r => (atomic_fragment ha r).bind_pure cfg.join⟩

/-- A stock plugin, and one that binds both operands of a pair. -/
def paired : Config where
  lax := true
  plugins := ⟨[Plugin.Stock.anyOf.plugin,
    ⟨"=each=", false, Plugin.pairCheck "two operands", Plugin.renderParts [.column, .each]⟩]⟩

theorem calls_atomic_paired :
    let f : Filter := .and [.comparison ⟨"a", "=in=", ["1", "2"]⟩, .comparison ⟨"b", "=each=", ["3", "4"]⟩,
      .not (.comparison ⟨"c", "=each=", ["5"]⟩)]
    let p : Params := ⟨[.text "base"]⟩
    ∃ e, paired.compile f p = .error e ⟨[.text "base", .texts ["1", "2"], .text "3", .text "4"]⟩ ∧
      paired.query { filter := some f } p = .error e p := by
  intro f p
  have hp : ∀ g ∈ paired.plugins.plugins, (∃ s : Plugin.Stock, g = s.plugin) ∨ g.OnlyAppends := by
    intro g hg
    simp only [paired, List.mem_cons, List.not_mem_nil, or_false] at hg
    rcases hg with rfl | rfl
    · exact .inl ⟨_, rfl⟩
    · exact .inr (Plugin.onlyAppends_of_renderParts _ _ _ _)
  have h : ∃ q, paired.query { filter := some f } p =
      .error (.pluginInvariant "=each=" "two operands") q := ⟨_, rfl⟩
  obtain ⟨q, h⟩ := h
  have hq : q = p := ((calls_atomic hp).2.2.2 _).error h
  exact ⟨_, rfl, by rw [h, hq]⟩

end Config
end Listing
