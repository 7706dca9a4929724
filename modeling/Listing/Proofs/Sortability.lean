import Listing.Plugin.Template
import Listing.Proofs.FirstFault
import Listing.Proofs.Frame
import Listing.Proofs.RowTexts

/-! What it changes that a field is marked as sortable. A bare selector becomes a record by it, and validation, the
values that are bound and the columns of a row each ask for the kind of a selector. -/
namespace Listing

/-! ### Marks -/

/-- A selector as a record, without what it says of sorting. -/
def Selector.unmarked (s : Selector) : Column := { s.toColumn with sortable := none }

lemma Selector.sql?_eq_unmarked (s : Selector) : s.sql? = s.unmarked.sql := rfl

lemma Selector.domain_eq_unmarked (s : Selector) : s.domain = s.unmarked.domain := rfl

namespace Selectors
variable {ss ss' : Selectors} {field : String} {s : Selector}

/-- Both have the same columns. They may differ in what can be sorted by, and in which selectors are bare. -/
def SameColumns (ss ss' : Selectors) : Prop :=
  ∀ field, (ss.get? field).map Selector.unmarked = (ss'.get? field).map Selector.unmarked

lemma SameColumns.get?_cases (h : ss.SameColumns ss') (field : String) :
    (ss.get? field = none ∧ ss'.get? field = none) ∨
      ∃ s s', ss.get? field = some s ∧ ss'.get? field = some s' ∧ s.unmarked = s'.unmarked := by
  have hf := h field
  cases hs : ss.get? field with
  | none =>
    rw [hs] at hf
    exact .inl ⟨rfl, Option.map_eq_none_iff.mp hf.symm⟩
  | some s =>
    rw [hs] at hf
    obtain ⟨s', hs', hu⟩ := Option.map_eq_some_iff.mp hf.symm
    exact .inr ⟨s, s', rfl, hs', hu.symm⟩

lemma SameColumns.resolve_eq (h : ss.SameColumns ss') (field : String) : ss.resolve field = ss'.resolve field := by
  unfold resolve
  rcases h.get?_cases field with ⟨hs, hs'⟩ | ⟨s, s', hs, hs', hu⟩
  · rw [hs, hs']
  · simp only [hs, hs', Option.bind_some, Selector.sql?_eq_unmarked, hu]

lemma SameColumns.domainOf_eq (h : ss.SameColumns ss') (field : String) :
    ss.domainOf field = ss'.domainOf field := by
  unfold domainOf
  rcases h.get?_cases field with ⟨hs, hs'⟩ | ⟨s, s', hs, hs', hu⟩
  · rw [hs, hs']
  · simp only [hs, hs', Option.map_some, Selector.domain_eq_unmarked, hu]

lemma sameColumns_marked (hs : ss.get? field = some s) (b : Bool) :
    ss.SameColumns (ss.insert field (s.withSortable b)) := by
  intro other
  rw [Dictionary.get?_insert]
  split
  · rename_i ho
    rw [ho, hs]
    rfl
  · rfl

end Selectors

/-! ### Plugins -/

namespace Plugin

/-- Of the selectors, a plugin looks at their columns only. -/
def ReadsColumns (p : Plugin) : Prop :=
  ∀ (c : Call) (ss : Selectors), c.selectors.SameColumns ss → p.render { c with selectors := ss } = p.render c

lemma Call.coerce_congr {c : Call} {ss : Selectors} (h : c.selectors.SameColumns ss) (asList : Bool) :
    Call.coerce { c with selectors := ss } asList = c.coerce asList := by
  simp only [Call.coerce, Selectors.coerce, h.domainOf_eq]

theorem Stock.readsColumns (s : Stock) : s.plugin.ReadsColumns := fun _ _ h =>
  Stock.render_congr rfl rfl rfl (Call.coerce_congr h true)

/-- A plugin that is written down in parts reads its operands as values of the column, and nothing else. -/
theorem readsColumns_of_parts {p : Plugin} {ps : List Part} (hp : p.render = renderParts ps) : p.ReadsColumns := by
  intro c ss h
  have hpart (q : Part) : q.render { c with selectors := ss } = q.render c := by
    cases q with
    | single | list => simp only [Part.render, Call.coerce_congr h]
    | _ => rfl
  simp only [hp, renderParts, hpart]

end Plugin

/-! ### Filters -/

namespace Config
variable {cfg : Config} {ss : Selectors}

/-- A bare selector is not asked for its values, but it has none that it would refuse. -/
lemma checkValue_eq_of_sameColumns (h : cfg.selectors.SameColumns ss) (skips : Bool) (field value : String) :
    checkValue { cfg with selectors := ss } skips field value = cfg.checkValue skips field value := by
  rw [checkValue_eq_first, checkValue_eq_first, fieldFaults, fieldFaults]
  rcases h.get?_cases field with ⟨hs, hs'⟩ | ⟨s, s', hs, hs', hu⟩
  · simp only [hs, hs']
  · simp only [hs, hs', Selector.domain_eq_unmarked, hu]

theorem predicate_eq_of_sameColumns (h : cfg.selectors.SameColumns ss)
    (hp : ∀ p ∈ cfg.plugins.plugins, p.ReadsColumns) (f : Option Filter) :
    predicate { cfg with selectors := ss } f = cfg.predicate f := by
  have hv (f : Filter) : validate { cfg with selectors := ss } f = cfg.validate f :=
    validate_congr fun c _ => checkComparison_congr rfl (fun skips => checkValue_eq_of_sameColumns h skips _) rfl
  have hw (c : Comparison) : compileComparison { cfg with selectors := ss } c = cfg.compileComparison c := by
    have hr : resolve { cfg with selectors := ss } c.selector = cfg.resolve c.selector := (h.resolve_eq _).symm
    refine compileComparison_congr rfl hr (h.domainOf_eq _).symm rfl fun p hf => ?_
    have hrender := hp p (Registry.handles_of_find?_eq_some hf).1 (cfg.call c) ss h
    rwa [call, hr]
  have hc (f : Filter) : compile { cfg with selectors := ss } f = cfg.compile f :=
    compile_congr rfl (fun c _ => hw c) fun g _ => hv g
  cases f with
  | none => rfl
  | some f => simp only [predicate, hv, hc]

end Config

/-! ### Rows -/

namespace Selectors
variable {ss : Selectors} {field : String} {s : Selector} {b : Bool} {row : Row}

lemma columnOf_insert_of_ne {other : String} (h : other ≠ field) :
    columnOf (ss.insert field s) row other = ss.columnOf row other := by
  simp only [columnOf, Dictionary.get?_insert, if_neg h]

lemma columnOf_marked_record {c : Column} (hs : ss.get? field = some (.record c)) :
    columnOf (ss.insert field ((Selector.record c).withSortable b)) row field = ss.columnOf row field := by
  simp only [columnOf, Dictionary.get?_insert, if_pos, hs]
  rfl

/-- The record of a bare selector has no row name. -/
lemma columnOf_marked_bare (sql : String) :
    columnOf (ss.insert field ((Selector.bare sql).withSortable b)) row field = field := by
  simp only [columnOf, Dictionary.get?_insert, if_pos]
  rfl

lemma columnOf_bare {sql : String} (hs : ss.get? field = some (.bare sql)) (h : row.Has sql → sql = field) :
    ss.columnOf row field = field := by
  simp only [columnOf, hs, Option.bind_some, Selector.rowCandidate?]
  split
  · rename_i hr
    exact h (Row.has_iff.mp hr)
  · rfl

end Selectors

/-! ### The mark of a field -/

namespace Config
variable {cfg : Config} {field : String} {s : Selector}

lemma isSortable_marked (hs : cfg.selectors.get? field = some s) (hf : s.sortable? ≠ some false) (other : String) :
    (cfg.withSelector field (s.withSortable true)).isSortable other = cfg.isSortable other := by
  simp only [isSortable, withSelector, Dictionary.get?_insert]
  by_cases ho : other = field
  · rw [if_pos ho, ho, hs]
    exact (bne_iff_ne.mpr hf).symm
  · rw [if_neg ho]

/-- That a field is marked as sortable, where it was not marked as the opposite, changes no predicate and no order.
It changes the texts of a row only if the selector was bare and the row has a column that is named by its SQL: the
selector is a record then, and the column with the field's own name counts. -/
theorem marked_sortable (hs : cfg.selectors.get? field = some s) (hf : s.sortable? ≠ some false)
    (hp : ∀ p ∈ cfg.plugins.plugins, p.ReadsColumns) :
    let marked := cfg.withSelector field (s.withSortable true)
    (∀ f, marked.predicate f = cfg.predicate f) ∧
    (∀ keys cursor, marked.orderBy keys cursor = cfg.orderBy keys cursor) ∧
    (∀ keys row, (∀ sql, s = .bare sql → field ∈ keys.map SortKey.field → row.Has sql → sql = field) →
      Cursor.valuesOf marked.selectors keys row = Cursor.valuesOf cfg.selectors keys row) ∧
    ∀ sql, s = .bare sql → ∀ row, marked.selectors.columnOf row field = field := by
  intro marked
  have hc : cfg.selectors.SameColumns marked.selectors := Selectors.sameColumns_marked hs true
  refine ⟨predicate_eq_of_sameColumns hc hp, fun keys cursor => ?_, fun keys row hrow => ?_, fun sql hsql row => ?_⟩
  · exact orderBy_congr rfl (fun k _ => isSortable_marked hs hf k.field) fun k _ => (hc.resolve_eq k.field).symm
  · refine Cursor.valuesOf_congr fun k hk => ?_
    by_cases hkf : k.field = field
    · rw [hkf]
      cases s with
      | bare sql =>
        have hm : field ∈ keys.map SortKey.field := hkf ▸ List.mem_map_of_mem hk
        exact (Selectors.columnOf_marked_bare sql).trans (Selectors.columnOf_bare hs (hrow sql rfl hm)).symm
      | record c => exact Selectors.columnOf_marked_record hs
    · exact Selectors.columnOf_insert_of_ne hkf
  · subst hsql
    exact Selectors.columnOf_marked_bare sql

/-- The users with a stock plugin, and with one that compares lower case texts. -/
def usersByLowerCase : Config := { users with
  plugins := ⟨[Plugin.Stock.isNull.plugin,
    { token := "=ci=", render := Plugin.renderParts [.text "lower(", .column, .text ") = ", .single] }]⟩ }

theorem marked_sortable_users :
    let marked := usersByLowerCase.withSelector "name" ((Selector.bare "u.name").withSortable true)
    let f : Filter := .and [.comparison ⟨"name", "=null=", ["false"]⟩, .comparison ⟨"name", "=ci=", ["ann"]⟩]
    let keys : List SortKey := [⟨"name", .desc⟩]
    usersByLowerCase.selectors.get? "name" = some (.bare "u.name") ∧
      (∀ p ∈ usersByLowerCase.plugins.plugins, p.ReadsColumns) ∧
      marked.predicate (some f) ⟨[]⟩ = .ok "(u.name IS NOT null AND lower(u.name) = $1)" ⟨[.text "ann"]⟩ ∧
      marked.orderBy keys none ⟨[]⟩ = .ok ⟨"u.name DESC", ""⟩ ⟨[]⟩ ∧
      Cursor.valuesOf marked.selectors keys (.texts (.ofList [("name", "Ann"), ("tier", "TIN")])) = .ok ["Ann"] ∧
      marked.selectors.columnOf (.texts (.ofList [("u.name", "Ann")])) "name" = "name" := by
  intro marked f keys
  have hs : usersByLowerCase.selectors.get? "name" = some (.bare "u.name") := rfl
  have hp : ∀ p ∈ usersByLowerCase.plugins.plugins, p.ReadsColumns := by
    intro p hm
    simp only [usersByLowerCase, List.mem_cons, List.not_mem_nil, or_false] at hm
    rcases hm with rfl | rfl
    · exact Plugin.Stock.readsColumns .isNull
    · exact Plugin.readsColumns_of_parts rfl
  obtain ⟨hpred, horder, hvalues, hcolumn⟩ := marked_sortable hs (by decide) hp
  refine ⟨hs, hp, (congrFun (hpred f) _).trans rfl, (congrFun (horder keys none) _).trans rfl, ?_, hcolumn _ rfl _⟩
  refine (hvalues keys _ fun sql hsql _ hr => ?_).trans rfl
  cases hsql
  rw [← Row.has_iff] at hr
  nomatch hr

/-- A bare selector that is marked loses the column of its SQL, and a plugin may ask for the kind of a selector. -/
theorem marked_sortable_promotes :
    let kind (c : Plugin.Call) : String :=
      if (c.selectors.record? c.comparison.selector).isSome then " IS record" else " IS bare"
    let cfg : Config := {
      selectors := .ofList [("id", .bare "u.id")]
      plugins := ⟨[{ token := "=kind=", render := fun c => pure (c.column ++ kind c) }]⟩ }
    let marked := cfg.withSelector "id" ((Selector.bare "u.id").withSortable true)
    let row : Row := .texts (.ofList [("u.id", "7")])
    Cursor.valuesOf cfg.selectors [⟨"id", .asc⟩] row = .ok ["7"] ∧
      Cursor.valuesOf marked.selectors [⟨"id", .asc⟩] row = .error (.missingRowProperty "id") ∧
      cfg.predicate (some (.comparison ⟨"id", "=kind=", ["1"]⟩)) ⟨[]⟩ = .ok "u.id IS bare" ⟨[]⟩ ∧
      marked.predicate (some (.comparison ⟨"id", "=kind=", ["1"]⟩)) ⟨[]⟩ = .ok "u.id IS record" ⟨[]⟩ := by
  refine ⟨rfl, rfl, rfl, rfl⟩

end Config
end Listing
