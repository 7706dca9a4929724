import Listing.Proofs.Acceptance
import Listing.Proofs.Ordering
import Listing.Proofs.Stock
import Listing.Query
import Mathlib.Data.List.Find

/-! What a request reads of a configuration. Of the selectors, these are the ones of the fields that it
names, and of the plugins those that handle its operators: two configurations that agree on them, and on
everything but selectors and plugins, answer the request alike. -/
namespace Listing

namespace Operand

lemma checkAll_congr {check check' : Filter → Except Error Unit} {os : List Operand}
    (h : ∀ f, .filter f ∈ os → check f = check' f) : checkAll check os = checkAll check' os := by
  induction os with
  | nil => rfl
  | cons o os ih =>
    cases o with
    | stray s => rfl
    | filter f => rw [checkAll, checkAll, h f (.head _), ih fun g hg => h g (.tail _ hg)]

lemma mem_comparisons_of_filter {f : Filter} {os : List Operand} (hf : .filter f ∈ os) {c : Comparison}
    (hc : c ∈ f.comparisons) : c ∈ comparisons os := mem_comparisons_iff.mpr ⟨f, hf, hc⟩

end Operand

/-- Of the selectors, a stock plugin reads the one that tells which values the operands stand for. -/
lemma Plugin.Stock.render_congr {s : Stock} {c d : Call} (hc : c.column = d.column)
    (ho : c.comparison = d.comparison) (hf : c.format = d.format) (hv : c.coerce true = d.coerce true) :
    s.plugin.render c = s.plugin.render d := by
  funext p
  rw [render_run, render_run, text_congr hc hf fun _ => by rw [ho], values, values, hv]

namespace Config
variable {cfg cfg' : Config}

/-! ### Filters -/

/-- Validation looks at comparisons one by one. -/
theorem validate_congr {f : Filter}
    (hc : ∀ c ∈ f.comparisons, cfg.checkComparison c = cfg'.checkComparison c) :
    cfg.validate f = cfg'.validate f := by
  induction f using Filter.induction with
  | comparison c => exact hc c (.head _)
  | group k os ih =>
    have ho : ∀ f, .filter f ∈ os → cfg.validate f = cfg'.validate f := fun f hf =>
      ih f hf fun c hm => hc c (Operand.mem_comparisons_of_filter hf hm)
    cases k with
    | not => rfl
    | and | or =>
      cases os with
      | nil => rfl
      | cons o os =>
        change cfg.validateAll (o :: os) = cfg'.validateAll (o :: os)
        rw [validateAll_eq_checkAll, validateAll_eq_checkAll]
        exact Operand.checkAll_congr ho

lemma compileAll_congr {os : List Operand} (h : ∀ f, .filter f ∈ os → cfg.compile f = cfg'.compile f) :
    cfg.compileAll os = cfg'.compileAll os := by
  induction os with
  | nil => rfl
  | cons o os ih =>
    cases o with
    | stray s => rfl
    | filter f => rw [compileAll, compileAll, h f (.head _), ih fun g hg => h g (.tail _ hg)]

/-- Compilation looks at comparisons one by one, and at the format. It validates what stands below a
negation. -/
theorem compile_congr {f : Filter} (hfmt : cfg.format = cfg'.format)
    (hc : ∀ c ∈ f.comparisons, cfg.compileComparison c = cfg'.compileComparison c)
    (hv : ∀ g, Filter.Within (.group .not [.filter g]) f → cfg.validate g = cfg'.validate g) :
    cfg.compile f = cfg'.compile f := by
  induction f using Filter.induction with
  | comparison c => exact hc c (.head _)
  | group k os ih =>
    have ho : ∀ f, .filter f ∈ os → cfg.compile f = cfg'.compile f := fun f hf =>
      ih f hf (fun c hm => hc c (Operand.mem_comparisons_of_filter hf hm)) fun g hg =>
        hv g (.operand hf hg)
    cases k with
    | and | or => simp only [compile, joined, hfmt, compileAll_congr ho]
    | not =>
      rcases os with _ | ⟨o, _ | ⟨o₂, os⟩⟩
      · rfl
      · cases o with
        | stray s => rfl
        | filter f => simp only [compile, hfmt, hv f (.whole _), ho f (.head _)]
      · rw [compile_not_cons_cons, compile_not_cons_cons]

/-! ### One comparison -/

section Comparison
variable {c : Comparison}

lemma checkValue_congr {field : String} (h : cfg.selectors.get? field = cfg'.selectors.get? field) (skips : Bool)
    (value : String) : cfg.checkValue skips field value = cfg'.checkValue skips field value := by
  simp only [checkValue, h]

lemma checkComparison_congr (hl : cfg.lax = cfg'.lax)
    (hv : ∀ skips value, cfg.checkValue skips c.selector value = cfg'.checkValue skips c.selector value)
    (hp : cfg.plugins.find? c.operator = cfg'.plugins.find? c.operator) :
    cfg.checkComparison c = cfg'.checkComparison c := by
  simp only [checkComparison, hl, hv, hp]

lemma resolve_congr {field : String} (h : cfg.selectors.get? field = cfg'.selectors.get? field) :
    cfg.resolve field = cfg'.resolve field := by
  simp only [resolve, Selectors.resolve, h]

lemma domainOf_congr {field : String} (h : cfg.selectors.get? field = cfg'.selectors.get? field) :
    cfg.selectors.domainOf field = cfg'.selectors.domainOf field := by
  simp only [Selectors.domainOf, h]

lemma coerce_congr (h : cfg.selectors.domainOf c.selector = cfg'.selectors.domainOf c.selector)
    (asList : Bool) : cfg.selectors.coerce c asList = cfg'.selectors.coerce c asList := by
  simp only [Selectors.coerce, h]

lemma clause_congr {op : Operator} (hfmt : cfg.format = cfg'.format)
    (hr : cfg.resolve c.selector = cfg'.resolve c.selector)
    (hd : cfg.selectors.domainOf c.selector = cfg'.selectors.domainOf c.selector) :
    cfg.clause c op = cfg'.clause c op := by
  simp only [clause, equality, hfmt, hr, coerce_congr hd]

lemma runPlugin_congr {p : Plugin} (h : p.render (cfg.call c) = p.render (cfg'.call c)) :
    cfg.runPlugin p c = cfg'.runPlugin p c := by
  unfold runPlugin
  cases p.check c with
  | error message => rfl
  | ok => exact congrArg Binding.ofState h

/-- The text and the value of a comparison come from what its field stands for, the values of its column and the
plugin that writes it, if there is one. -/
theorem compileComparison_congr (hfmt : cfg.format = cfg'.format)
    (hr : cfg.resolve c.selector = cfg'.resolve c.selector)
    (hd : cfg.selectors.domainOf c.selector = cfg'.selectors.domainOf c.selector)
    (hp : cfg.plugins.find? c.operator = cfg'.plugins.find? c.operator)
    (hw : ∀ p, cfg.plugins.find? c.operator = some p → p.render (cfg.call c) = p.render (cfg'.call c)) :
    cfg.compileComparison c = cfg'.compileComparison c := by
  unfold compileComparison
  rw [← hp]
  cases hf : cfg.plugins.find? c.operator with
  | none => simp only [clause_congr hfmt hr hd]
  | some p => exact runPlugin_congr (hw p hf)

end Comparison

/-! ### Orders -/

lemma isSortable_congr {field : String} (hl : cfg.lax = cfg'.lax)
    (h : cfg.selectors.get? field = cfg'.selectors.get? field) : cfg.isSortable field = cfg'.isSortable field := by
  simp only [isSortable, h, hl]

/-- An order looks at its fields, whether they are sortable and what they stand for. -/
theorem orderBy_congr {keys : List SortKey} {cursor : Option String} (hfmt : cfg.format = cfg'.format)
    (hs : ∀ k ∈ keys, cfg.isSortable k.field = cfg'.isSortable k.field)
    (hr : ∀ k ∈ keys, cfg.resolve k.field = cfg'.resolve k.field) :
    cfg.orderBy keys cursor = cfg'.orderBy keys cursor := by
  have hf : keys.find? (!cfg.isSortable ·.field) = keys.find? (!cfg'.isSortable ·.field) :=
    List.find?_congr fun k hk => by rw [hs k hk]
  have hlist : cfg.sortList keys = cfg'.sortList keys := by
    have ht : ∀ k ∈ keys, cfg.sortText k = cfg'.sortText k := fun k hk => by
      simp only [sortText, hr k hk, hfmt]
    rw [sortList, sortList, List.map_congr_left ht]
  have hseek (d : Direction) (places : List Placeholder) :
      cfg.seekText d keys places = cfg'.seekText d keys places := by
    rw [seekText, seekText, List.map_congr_left hr, hfmt]
  simp only [orderBy, seek, hf, hlist, hseek]

end Config

/-! ### Requests -/

/-- The comparisons of a request, at any depth of its filter. -/
def Request.comparisons (r : Request) : List Comparison := (r.filter.map Filter.comparisons).getD []

/-- The fields that a request names. -/
def Request.fields (r : Request) : List String :=
  r.comparisons.map Comparison.selector ++ r.sort.map SortKey.field

/-- Two configurations that differ, for a request, only in what it does not mention: in the selectors of
other fields, and in plugins that handle none of its operators. -/
structure Config.Agree (cfg cfg' : Config) (r : Request) : Prop where
  base : cfg.base = cfg'.base
  strategy : cfg.strategy = cfg'.strategy
  separator : cfg.separator? = cfg'.separator?
  lax : cfg.lax = cfg'.lax
  format : cfg.format = cfg'.format
  selector : ∀ field ∈ r.fields, cfg.selectors.get? field = cfg'.selectors.get? field
  plugin : ∀ c ∈ r.comparisons, ∃ s : Option Plugin.Stock,
    cfg.plugins.find? c.operator = s.map Plugin.Stock.plugin ∧
      cfg'.plugins.find? c.operator = s.map Plugin.Stock.plugin

namespace Config
variable {cfg cfg' : Config} {r : Request}

lemma Agree.predicate_eq (h : cfg.Agree cfg' r) : cfg.predicate r.filter = cfg'.predicate r.filter := by
  cases hf : r.filter with
  | none => rfl
  | some f =>
    have hm : ∀ c ∈ f.comparisons, c ∈ r.comparisons := fun c hc => by simpa [Request.comparisons, hf] using hc
    have hs : ∀ c ∈ f.comparisons, cfg.selectors.get? c.selector = cfg'.selectors.get? c.selector :=
      fun c hc => h.selector _ (List.mem_append_left _ (List.mem_map_of_mem (hm c hc)))
    have hcheck : ∀ c ∈ f.comparisons, cfg.checkComparison c = cfg'.checkComparison c := fun c hc => by
      obtain ⟨s, hp, hp'⟩ := h.plugin c (hm c hc)
      exact checkComparison_congr h.lax (checkValue_congr (hs c hc)) (hp.trans hp'.symm)
    have hcompile : ∀ c ∈ f.comparisons, cfg.compileComparison c = cfg'.compileComparison c := fun c hc => by
      obtain ⟨s, hp, hp'⟩ := h.plugin c (hm c hc)
      have hr := resolve_congr (hs c hc)
      have hd := domainOf_congr (hs c hc)
      refine compileComparison_congr h.format hr hd (hp.trans hp'.symm) fun p hf => ?_
      obtain ⟨s, -, rfl⟩ := Option.map_eq_some_iff.mp (hp.symm.trans hf)
      exact Plugin.Stock.render_congr (c := cfg.call c) (d := cfg'.call c) hr rfl h.format (coerce_congr hd true)
    have hbelow : ∀ g, Filter.Within (.group .not [.filter g]) f → cfg.validate g = cfg'.validate g := by
      refine fun g hg => validate_congr fun c hc => hcheck c ?_
      exact Filter.mem_comparisons_iff.mpr
        ((Filter.Within.operand (.head _) (Filter.mem_comparisons_iff.mp hc)).trans hg)
    simp only [predicate, validate_congr hcheck, compile_congr h.format hcompile hbelow]

/-- The fragment is made of the predicate and the order, and of the format. -/
lemma Agree.fragment_eq (h : cfg.Agree cfg' r) : cfg.fragment r = cfg'.fragment r := by
  have hs : ∀ k ∈ r.sort, cfg.selectors.get? k.field = cfg'.selectors.get? k.field := fun k hk =>
    h.selector _ (List.mem_append_right _ (List.mem_map_of_mem hk))
  have ho : cfg.orderBy r.sort r.cursor = cfg'.orderBy r.sort r.cursor :=
    orderBy_congr h.format (fun k hk => isSortable_congr h.lax (hs k hk)) (fun k hk => resolve_congr (hs k hk))
  simp only [fragment, combine, h.predicate_eq, ho, h.format]

/-- A request is answered from what it mentions. -/
theorem query_eq_of_agree (h : cfg.Agree cfg' r) (p : Params) : cfg.query r p = cfg'.query r p := by
  have hj : cfg.join = cfg'.join := by
    funext fragment
    simp only [join, separator, h.base, h.strategy, h.separator, h.format]
  simp only [query, h.fragment_eq, hj]

/-- The users again, with another selector and another plugin, neither of which the request mentions. -/
theorem query_eq_of_agree_users :
    let cfg := { users with plugins := ⟨[Plugin.Stock.anyOf.plugin, Plugin.Stock.isNull.plugin]⟩ }
    let cfg' := { users with
      selectors := .ofList [("joined", .bare "u.joined"), ("name", .bare "u.name"),
        ("points", .record { domain := .type .integer })]
      plugins := ⟨[Plugin.Stock.isNull.plugin, ⟨"=in=", true, fun _ => .ok (), fun c => pure c.column⟩]⟩ }
    let r : Request := ⟨some (.or [.comparison ⟨"points", "=NULL=", ["true"]⟩,
      .not (.comparison ⟨"name", "==", ["*x"]⟩)]), [⟨"name", .desc⟩], none⟩
    let s := "select * from users u WHERE (points IS null OR NOT(u.name ILIKE $1)) ORDER BY u.name DESC"
    cfg.Agree cfg' r ∧ cfg.query r ⟨[]⟩ = .ok s ⟨[.text "%x"]⟩ ∧ cfg'.query r ⟨[]⟩ = .ok s ⟨[.text "%x"]⟩ := by
  intro cfg cfg' r s
  have ha : cfg.Agree cfg' r := by
    refine ⟨rfl, rfl, rfl, rfl, rfl, by decide, fun c hc => ?_⟩
    have hm : c ∈ [⟨"points", "=NULL=", ["true"]⟩, ⟨"name", "==", ["*x"]⟩] := hc
    simp only [List.mem_cons, List.not_mem_nil, or_false] at hm
    rcases hm with rfl | rfl
    · exact ⟨some .isNull, rfl, rfl⟩
    · exact ⟨none, rfl, rfl⟩
  have h : cfg.query r ⟨[]⟩ = .ok s ⟨[.text "%x"]⟩ := by
    dsimp only [cfg, r, s]
    rfl
  exact ⟨ha, h, (query_eq_of_agree ha ⟨[]⟩).symm.trans h⟩

end Config
end Listing
