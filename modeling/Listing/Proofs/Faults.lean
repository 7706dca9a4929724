import Listing.Proofs.Acceptance
import Listing.Proofs.Ordering
import Listing.Proofs.Stock
import Listing.Query

/-! Who is to blame for a failed request. Validation, sort keys and cursors are the client's matter, and to
these compilation adds the refusals of plugins. Compilation has complaints of its own about operators and
groups that it cannot write, but it never comes to a filter that has not been validated, and validation
leaves no cause for them. -/
namespace Listing

/-- A plugin that handles the comparison's operator refuses the comparison. -/
def Comparison.Refused (cfg : Config) (c : Comparison) (message : String) : Prop :=
  ∃ p ∈ cfg.plugins.plugins, p.handles c.operator = true ∧ p.check c = .error message

/-- The errors for which there is a cause in a filter. -/
inductive Filter.Faulty (cfg : Config) (f : Filter) : Error → Prop
  | client {e : Error} (h : e.isClientError = true) : Faulty cfg f e
  | refused {c : Comparison} {message : String} (mem : Within (.comparison c) f)
      (h : c.Refused cfg message) : Faulty cfg f (.pluginInvariant c.operator message)

namespace Filter
variable {cfg : Config} {e : Error}

lemma Faulty.of_operand {f : Filter} {k : Connective} {os : List Operand} (hf : .filter f ∈ os)
    (h : f.Faulty cfg e) : (group k os).Faulty cfg e := by
  cases h with
  | client h => exact .client h
  | refused mem h => exact .refused (.operand hf mem) h

end Filter

lemma Cursor.isClientError_of_decode {s : String} {e : Error} (h : decode s = .error e) :
    e.isClientError = true := by
  obtain ⟨message, rfl⟩ := exists_of_decode_eq_error h
  rfl

namespace Config
variable {cfg : Config} {e : Error} {f : Filter} {os : List Operand}

lemma and_then_eq_error_iff {x y : Except Error Unit} :
    (x >>= fun _ => y) = .error e ↔ x = .error e ∨ x = .ok () ∧ y = .error e := by
  cases x <;> simp [bind, Except.bind]

/-! ### Validation -/

lemma isClientError_refusal (s : Selector) (field value : String) :
    (s.refusal field value).isClientError = true := by
  unfold Selector.refusal
  split <;> rfl

lemma isClientError_of_checkValue {skips : Bool} {field value : String}
    (h : cfg.checkValue skips field value = .error e) : e.isClientError = true := by
  unfold checkValue at h
  split at h
  · cases h
    rfl
  · split at h
    · nomatch h
    · cases h
      exact isClientError_refusal _ _ _

lemma isClientError_of_checkComparison {c : Comparison} (h : cfg.checkComparison c = .error e) :
    e.isClientError = true := by
  simp only [checkComparison] at h
  split at h
  · cases h
    rfl
  · split at h
    · cases h
      rfl
    · split at h
      · nomatch h
      · exact isClientError_of_checkValue h

lemma isClientError_of_only? (h : Operand.only? os = .error e) : e.isClientError = true := by
  match os with
  | [] | [.stray _] | _ :: _ :: _ =>
    cases h
    rfl

/-- The first operand at fault: a stray text, or a filter that fails the check. -/
lemma of_checkAll_eq_error {check : Filter → Except Error Unit} (h : Operand.checkAll check os = .error e) :
    (∃ s, .stray s ∈ os ∧ e = .invalidOperand (Operand.stray s).text) ∨
      ∃ f, .filter f ∈ os ∧ check f = .error e := by
  induction os with
  | nil => nomatch h
  | cons o os ih =>
    cases o with
    | stray s =>
      cases h
      exact .inl ⟨s, .head _, rfl⟩
    | filter f =>
      rcases and_then_eq_error_iff.mp h with hf | ⟨-, hos⟩
      · exact .inr ⟨f, .head _, hf⟩
      · exact (ih hos).imp (.imp fun _ => .imp_left (.tail _)) (.imp fun _ => .imp_left (.tail _))

theorem isClientError_of_validate (h : cfg.validate f = .error e) : e.isClientError = true := by
  induction f using Filter.induction with
  | comparison c => exact isClientError_of_checkComparison h
  | group k os ih =>
    cases k with
    | not =>
      cases ho : Operand.only? os with
      | ok f => simp [validate, ho, bind, Except.bind, pure, Except.pure] at h
      | error d =>
        simp [validate, ho, bind, Except.bind] at h
        exact h ▸ isClientError_of_only? ho
    | and | or =>
      cases os with
      | nil =>
        cases h
        rfl
      | cons o os =>
        change cfg.validateAll (o :: os) = .error e at h
        rw [validateAll_eq_checkAll] at h
        rcases of_checkAll_eq_error h with ⟨s, -, rfl⟩ | ⟨f, hf, he⟩
        · rfl
        · exact ih f hf he

/-! ### Compilation -/

/-- An operator that was found valid is one that can be written. -/
lemma faulty_of_inspectComparison {c : Comparison} (hv : cfg.checkComparison c = .ok ())
    (h : cfg.inspectComparison c = .error e) : (Filter.comparison c).Faulty cfg e := by
  have hk := (checkComparison_eq_ok_iff.mp hv).1
  unfold inspectComparison at h
  cases hp : cfg.plugins.find? c.operator with
  | some p =>
    simp only [hp] at h
    cases hc : p.check c with
    | ok => simp [hc] at h
    | error message =>
      simp only [hc] at h
      cases h
      obtain ⟨hm, hh⟩ := Registry.handles_of_find?_eq_some hp
      exact .refused (.whole _) ⟨p, hm, hh, hc⟩
  | none =>
    simp [hp] at h hk
    simp [hk] at h

/-- Compilation of a validated filter. The invariant is that each filter it goes into is validated: the
operands of `and` and `or` were validated with their group, and that of `not` is validated on entry. -/
theorem faulty_of_inspect (hv : cfg.validate f = .ok ()) (h : cfg.inspect f = .error e) :
    f.Faulty cfg e := by
  induction f using Filter.induction with
  | comparison c => exact faulty_of_inspectComparison hv h
  | group k os ih =>
    obtain ⟨hk, hos⟩ := validate_group_eq_ok_iff.mp hv
    cases k with
    | not =>
      obtain ⟨f, rfl⟩ := hk
      rw [inspect] at h
      rcases and_then_eq_error_iff.mp h with hf | ⟨hf, hi⟩
      · exact .client (isClientError_of_validate hf)
      · exact (ih f (.head _) hf hi).of_operand (.head _)
    | and | or =>
      rw [inspect, inspectAll_eq_checkAll] at h
      rcases of_checkAll_eq_error h with ⟨s, -, rfl⟩ | ⟨f, hf, hi⟩
      · exact .client rfl
      · exact (ih f hf (hos (by decide) f hf) hi).of_operand hf

/-! ### Requests -/

lemma isClientError_of_cursorValues {keys : List SortKey} {cursor : String}
    (h : cursorValues keys cursor = .error e) : e.isClientError = true := by
  unfold cursorValues at h
  split at h
  · rename_i d hd
    cases h
    exact Cursor.isClientError_of_decode hd
  · split at h
    · nomatch h
    · cases h
      rfl

lemma isClientError_of_orderValues {keys : List SortKey} {cursor : Option String}
    (h : cfg.orderValues keys cursor = .error e) : e.isClientError = true := by
  unfold orderValues at h
  split at h
  · cases h
    rfl
  · split at h
    · nomatch h
    · rename_i s _
      cases hv : cursorValues keys s with
      | ok values =>
        rw [hv] at h
        nomatch h
      | error d =>
        rw [hv] at h
        cases h
        exact isClientError_of_cursorValues hv

/-- The verdict on a request is that on its filter, and then that on its order and cursor. -/
theorem verdict_query (r : Request) (p : Params) : (cfg.query r).verdict p =
    ((cfg.predicate r.filter).verdict p >>= fun _ =>
      (cfg.orderValues r.sort r.cursor).map fun _ => ()) := by
  have ho (s : String) (q : Params) := (Binding.verdict_bind_pure (cfg.orderBy r.sort r.cursor)
    (cfg.combine s) q).trans ((orderBy_computes cfg r.sort r.cursor).verdict q)
  calc (cfg.query r).verdict p
    _ = (cfg.fragment r).verdict p := Binding.verdict_bind_pure _ cfg.join p
    _ = _ := (Binding.verdict_restoring _ p).trans (Binding.verdict_bind ho)

lemma faulty_of_predicate {p q : Params} (h : cfg.predicate (some f) p = .error e q) :
    f.Faulty cfg e := by
  have hv := Binding.verdict_eq_error_iff.mpr ⟨q, h⟩
  rw [verdict_predicate] at hv
  rcases and_then_eq_error_iff.mp hv with hf | ⟨hf, hi⟩
  · exact .client (isClientError_of_validate hf)
  · exact faulty_of_inspect hf hi

/-- The cause of a failure lies with the client or in the filter. -/
lemma faulty_of_query {r : Request} {p q : Params} (h : cfg.query r p = .error e q) :
    e.isClientError = true ∨ ∃ f, r.filter = some f ∧ f.Faulty cfg e := by
  have hv := Binding.verdict_eq_error_iff.mpr ⟨q, h⟩
  rw [verdict_query] at hv
  rcases and_then_eq_error_iff.mp hv with hp | ⟨-, ho⟩
  · obtain ⟨w, hp⟩ := Binding.verdict_eq_error_iff.mp hp
    cases hf : r.filter with
    | none =>
      rw [hf] at hp
      nomatch hp
    | some f =>
      rw [hf] at hp
      exact .inr ⟨f, rfl, faulty_of_predicate hp⟩
  · cases hr : cfg.orderValues r.sort r.cursor with
    | ok values =>
      rw [hr] at ho
      nomatch ho
    | error d =>
      rw [hr] at ho
      cases ho
      exact .inl (isClientError_of_orderValues hr)

/-- A failed request is the client's fault, and the error says so, unless it is the refusal of a plugin for
a comparison of the filter, which is fatal. No other error is ever returned, and without plugins the client
is always at fault. -/
theorem fault_of_query {r : Request} {p q : Params} (h : cfg.query r p = .error e q) :
    ((e.isClientError = true ∧ e.isFatal = false) ∨
      (e.isFatal = true ∧ e.isClientError = false ∧ ∃ f c message, r.filter = some f ∧
        Filter.Within (.comparison c) f ∧ c.Refused cfg message ∧
        e = .pluginInvariant c.operator message)) ∧
    ((∀ shape, e ≠ .unsupportedFilter shape) ∧ (∀ name, e ≠ .missingRowProperty name) ∧
      (∀ token, e ≠ .invalidPluginOperator token) ∧ ∀ token, e ≠ .duplicatePlugin token) ∧
    (cfg.plugins = ∅ → e.isClientError = true) := by
  have client (hc : e.isClientError = true) :
      (∀ shape, e ≠ .unsupportedFilter shape) ∧ (∀ name, e ≠ .missingRowProperty name) ∧
        (∀ token, e ≠ .invalidPluginOperator token) ∧ ∀ token, e ≠ .duplicatePlugin token := by
    refine ⟨?_, ?_, ?_, ?_⟩ <;> rintro _ rfl <;> nomatch hc
  rcases faulty_of_query h with hc | ⟨f, hf, hc | ⟨mem, hr⟩⟩
  · exact ⟨.inl ⟨hc, Error.not_isFatal_of_isClientError hc⟩, client hc, fun _ => hc⟩
  · exact ⟨.inl ⟨hc, Error.not_isFatal_of_isClientError hc⟩, client hc, fun _ => hc⟩
  · refine ⟨.inr ⟨rfl, rfl, f, _, _, hf, mem, hr, rfl⟩, ?_, fun hn => ?_⟩
    · refine ⟨?_, ?_, ?_, ?_⟩ <;> rintro _ ⟨⟩
    · obtain ⟨p, hp, -⟩ := hr
      rw [hn] at hp
      nomatch hp

/-- A flag below a negation that says neither yes nor no, behind a comparison that has bound its value. -/
theorem fault_of_query_users :
    let cfg := { users with plugins := ⟨[Plugin.Stock.isNull.plugin]⟩ }
    let f : Filter := .and [.comparison ⟨"name", "==", ["Ann"]⟩,
      .not (.comparison ⟨"points", "=NULL=", ["maybe"]⟩)]
    let message := "operator value must be 'true' or 'false', but was: 'maybe'"
    let e : Error := .pluginInvariant "=NULL=" message
    (∃ q, cfg.query ⟨some f, [⟨"name", .asc⟩], none⟩ ⟨[]⟩ = .error e q) ∧ e.isFatal = true ∧
      e.isClientError = false ∧ ∃ c, Filter.Within (.comparison c) f ∧ c.Refused cfg message := by
  intro cfg f message e
  have h : ∃ q, cfg.query ⟨some f, [⟨"name", .asc⟩], none⟩ ⟨[]⟩ = .error e q := ⟨_, rfl⟩
  obtain ⟨q, h⟩ := h
  obtain ⟨⟨hc, -⟩ | ⟨hf, hc, g, c, m, hg, mem, hr, he⟩, -, -⟩ := fault_of_query h
  · nomatch hc
  · cases hg
    obtain rfl : message = m := (Error.pluginInvariant.inj he).2
    exact ⟨⟨q, h⟩, hf, hc, c, mem, hr⟩

end Config
end Listing
