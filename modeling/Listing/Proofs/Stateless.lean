import Listing.Proofs.Acceptance
import Listing.Proofs.Rollback
import Listing.Proofs.Stock

/-! Requests as functions without state. Where only stock plugins are registered, a request is one check
that reads no list, then values for the end of the list, and a text that depends on the list by the
number of its values only. -/
namespace Listing
namespace Config
variable {cfg : Config}

/-- What a filter binds, or why it is refused. -/
def filterValues (cfg : Config) : Option Filter → Except Error (List Value)
  | none => .ok []
  | some f => (cfg.validate f >>= fun _ => cfg.inspect f).map fun _ => cfg.phrasing.valuesOf f

/-- The condition of a filter behind `n` values. -/
def predicateAfter (cfg : Config) (n : Nat) : Option Filter → String
  | none => ""
  | some f => cfg.phrasing.render cfg.format n f

/-- What a request binds, or why it is refused. -/
def requestValues (cfg : Config) (r : Request) : Except Error (List Value) := do
  let values ← cfg.filterValues r.filter
  let cursor ← cfg.orderValues r.sort r.cursor
  return values ++ cursor

/-- The number of values that a filter binds, if it is not refused. -/
def width (cfg : Config) : Option Filter → Nat
  | none => 0
  | some f => (cfg.phrasing.valuesOf f).length

/-- What a request adds to the base query, behind `n` values. -/
def fragmentAfter (cfg : Config) (n : Nat) (r : Request) : String :=
  cfg.combine (cfg.predicateAfter n r.filter) (cfg.orderAfter (n + cfg.width r.filter) r.sort r.cursor)

lemma StockOnly.onlyAppends (hs : cfg.StockOnly) : ∀ p ∈ cfg.plugins.plugins, p.OnlyAppends := by
  intro p hm
  obtain ⟨s, rfl⟩ := hs p hm
  exact s.onlyAppends

lemma length_of_filterValues {f : Option Filter} {values : List Value}
    (h : cfg.filterValues f = .ok values) : values.length = cfg.width f := by
  cases f with
  | none =>
    cases h
    rfl
  | some f =>
    cases hv : cfg.validate f >>= fun _ => cfg.inspect f with
    | error e =>
      simp only [filterValues, hv] at h
      nomatch h
    | ok =>
      simp only [filterValues, hv] at h
      cases h
      rfl

theorem predicate_computes (hs : cfg.StockOnly) (f : Option Filter) :
    (cfg.predicate f).Computes (cfg.filterValues f) (cfg.predicateAfter · f) := by
  intro p
  cases f with
  | none => simp [predicate, filterValues, predicateAfter]
  | some f =>
    have hv := @verdict_predicate cfg p f
    cases hr : cfg.predicate (some f) p with
    | ok s q =>
      obtain ⟨rfl, rfl⟩ := Phrasing.compile_eq_render (phrasing_describes hs) f (of_predicate_eq_ok hr).2
      rw [Binding.verdict, hr] at hv
      simp [filterValues, ← hv, predicateAfter, Except.map]
    | error e q =>
      have hq := (atomic_predicate hs.onlyAppends (some f)).error hr
      rw [Binding.verdict, hr] at hv
      simp [filterValues, ← hv, Except.map, hq]

theorem fragment_computes (hs : cfg.StockOnly) (r : Request) :
    (cfg.fragment r).Computes (cfg.requestValues r) (cfg.fragmentAfter · r) :=
  (predicate_computes hs r.filter).restoring_bind (fun _ => length_of_filterValues) fun s =>
    (orderBy_computes cfg r.sort r.cursor).bind_pure (cfg.combine s)

theorem query_computes (hs : cfg.StockOnly) (r : Request) :
    (cfg.query r).Computes (cfg.requestValues r) fun n => cfg.join (cfg.fragmentAfter n r) :=
  (fragment_computes hs r).bind_pure cfg.join

end Config
end Listing
