import Listing.Proofs.Frame
import Listing.Proofs.Paging

/-! Lax mode takes all that strict mode takes. The mode decides whether a field needs a selector and an
operand its value, and nothing else: where both are in order, a request is answered alike in either mode. -/
namespace Listing
namespace Config

/-- The configuration in strict mode. -/
def strict (cfg : Config) : Config := { cfg with lax := false }

/-- The configuration in lax mode. -/
def relaxed (cfg : Config) : Config := { cfg with lax := true }

end Config

lemma Comparison.Accepted.relaxed {cfg : Config} {c : Comparison} (h : c.Accepted cfg.strict) :
    c.Accepted cfg.relaxed where
  operator := h.operator
  operand := h.operand
  value hl := nomatch hl
  check := h.check

namespace Filter
variable {cfg : Config} {f g : Filter}

lemma Accepted.relaxed (h : f.Accepted cfg.strict) : f.Accepted cfg.relaxed where
  comparison c hc := (h.comparison c hc).relaxed
  group := h.group

lemma Accepted.of_within (h : f.Accepted cfg) (hg : Within g f) : g.Accepted cfg where
  comparison c hc := h.comparison c (hc.trans hg)
  group k os ho := h.group k os (ho.trans hg)

end Filter

namespace Config
variable {cfg : Config}

/-- Compilation knows the mode by what it validates only. -/
lemma compile_relaxed {f : Filter} (h : f.Accepted cfg.strict) : cfg.relaxed.compile f = cfg.strict.compile f := by
  refine compile_congr rfl (fun c _ => rfl) fun g hg => ?_
  have hs : g.Accepted cfg.strict := h.of_within (.trans (.operand (.head _) (.whole g)) hg)
  rw [((passes_iff g).mpr hs.relaxed).1, ((passes_iff g).mpr hs).1]

lemma predicate_relaxed {f : Option Filter} {p q : Params} {s : String}
    (h : cfg.strict.predicate f p = .ok s q) : cfg.relaxed.predicate f p = .ok s q := by
  cases f with
  | none => exact h
  | some f =>
    have ha := accepted_of_predicate_eq_ok h
    apply Binding.restoring_of_ok
    rw [((passes_iff f).mpr ha.relaxed).1, compile_relaxed ha]
    exact (of_predicate_eq_ok h).2

lemma isSortable_relaxed {field : String} (h : cfg.strict.isSortable field = true) :
    cfg.relaxed.isSortable field = true := by
  unfold isSortable at *
  cases hs : cfg.selectors.get? field with
  | none => simp [relaxed, hs]
  | some s => simpa [strict, relaxed, hs] using h

/-- No sort key is refused, and nothing else in an order knows the mode. -/
lemma orderBy_relaxed {keys : List SortKey} {cursor : Option String} {p q : Params} {order : OrderBy}
    (h : cfg.strict.orderBy keys cursor p = .ok order q) : cfg.relaxed.orderBy keys cursor p = .ok order q := by
  have hn : keys.find? (!cfg.strict.isSortable ·.field) = none := by
    obtain ⟨values, hv, -⟩ := (orderBy_computes cfg.strict keys cursor).of_eq_ok h
    unfold orderValues at hv
    split at hv
    · nomatch hv
    · assumption
  have hr : keys.find? (!cfg.relaxed.isSortable ·.field) = none := by
    rw [List.find?_eq_none] at hn ⊢
    exact fun k hk => by simpa using isSortable_relaxed (by simpa using hn k hk)
  have hv : cfg.relaxed.orderValues keys cursor = cfg.strict.orderValues keys cursor := by
    simp only [orderValues, hn, hr]
  rw [← h, orderBy_computes cfg.relaxed keys cursor p, orderBy_computes cfg.strict keys cursor p, hv]
  rfl

/-- What strict mode answers, lax mode answers in the same words and with the same values. So what lax mode
refuses, strict mode refuses. -/
theorem query_relaxed (cfg : Config) (r : Request) (p : Params) :
    (∀ s q, cfg.strict.query r p = .ok s q → cfg.relaxed.query r p = .ok s q) ∧
      ∀ e q, cfg.relaxed.query r p = .error e q → ∃ d w, cfg.strict.query r p = .error d w := by
  have hq (s : String) (q : Params) (h : cfg.strict.query r p = .ok s q) : cfg.relaxed.query r p = .ok s q := by
    obtain ⟨fragment, v, hf, hs⟩ := Binding.of_bind_eq_ok h
    obtain ⟨predicate, order, w, hp, ho, rfl⟩ := of_fragment_eq_ok hf
    have hr := fragment_of_ok (predicate_relaxed hp) (orderBy_relaxed ho)
    exact (Binding.bind_of_ok hr).trans hs
  refine ⟨hq, fun e q he => ?_⟩
  cases h : cfg.strict.query r p with
  | ok s w =>
    rw [hq s w h] at he
    nomatch he
  | error d w => exact ⟨d, w, rfl⟩

/-- A filter and an order that strict mode takes, and a filter that lax mode refuses. -/
theorem query_relaxed_users :
    let r : Request := ⟨some (.not (.comparison ⟨"points", ">", ["10"]⟩)), [⟨"name", .asc⟩], none⟩
    let t : Request := ⟨some (.not (.comparison ⟨"points", "=near=", ["10"]⟩)), [], none⟩
    let s := "select * from users u WHERE NOT(points>$1) ORDER BY u.name"
    users.strict.query r ⟨[]⟩ = .ok s ⟨[.number (.int 10)]⟩ ∧
      users.relaxed.query r ⟨[]⟩ = .ok s ⟨[.number (.int 10)]⟩ ∧
      (∃ e q, users.relaxed.query t ⟨[]⟩ = .error e q) ∧ ∃ e q, users.strict.query t ⟨[]⟩ = .error e q := by
  intro r t s
  have h : users.strict.query r ⟨[]⟩ = .ok s ⟨[.number (.int 10)]⟩ := by
    dsimp only [r, s]
    rfl
  have he : users.relaxed.query t ⟨[]⟩ = .error (.unknownOperator "=near=") ⟨[]⟩ := rfl
  exact ⟨h, (query_relaxed users r ⟨[]⟩).1 _ _ h, ⟨_, _, he⟩, (query_relaxed users t ⟨[]⟩).2 _ _ he⟩

end Config
end Listing
