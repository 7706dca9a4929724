import Listing.Proofs.Acceptance
import Listing.Proofs.Stock
import Listing.Proofs.Wildcards

/-! The types of bound values in strict mode. Three functions read an operand, each by rules of its own:
validation asks whether the column takes it, equality looks for wildcards, and coercion makes a value of
it. They agree on single operands. Of a list, validation has only seen the first. -/
namespace Listing

lemma Comparison.mem_of_hasWildcard {c : Comparison} (h : c.hasWildcard = true) :
    '*' ∈ c.firstOperand.toList := by
  simp only [hasWildcard, Wildcards.of, Bool.or_eq_true, beq_iff_eq] at h
  rcases h with h | h
  · exact List.mem_of_head? h
  · exact List.mem_of_getLast? h

lemma SelectorType.not_isNaN_of_accepts {t : SelectorType} {s : String} (ht : t = .integer ∨ t = .number)
    (h : t.accepts s = true) : (Number.parse s).isNaN = false := by
  rcases ht with rfl | rfl
  · simp only [accepts, Domain.isNumeric, Bool.and_eq_true, Bool.not_eq_true'] at h
    exact h.2
  · simpa only [accepts, Domain.isNumeric, Bool.not_eq_true'] using h

namespace Operator
variable {op : Operator} {token : String}

/-- The symbol of an operator is never read as a likeness. -/
lemma sign_ne_likeness (h : op.isList = false) (fmt : Format) {k : Keyword}
    (hk : k = .ilike ∨ k = .notIlike) : op.sign fmt false ≠ " " ++ fmt.keyword k ++ " " := by
  obtain ⟨lower, detached⟩ := fmt
  rcases hk with rfl | rfl
  all_goals
    cases op with
    | in_ | out => nomatch h
    | eq | ne | lt | le | gt | ge => cases lower <;> cases detached <;> decide

end Operator

namespace Config
variable {cfg : Config} {c : Comparison} {col : Column} {op : Operator}

/-- With the placeholder `n`, the comparison is written as a likeness or its negation. -/
def IsLikeness (cfg : Config) (n : Nat) (c : Comparison) : Prop :=
  ∃ k, (k = .ilike ∨ k = .notIlike) ∧ cfg.builtInText n c =
    cfg.resolve c.selector ++ (" " ++ cfg.format.keyword k ++ " ") ++ Placeholder.text ⟨n⟩

/-- What a comparison with a single operand binds on a column, and how it is written: numbers, truth values
and dates are compared as what they are, and so are enumerated values unless a pattern is looked for. -/
structure WellTyped (cfg : Config) (c : Comparison) (d : Domain) : Prop where
  number : d = .type .integer ∨ d = .type .number →
    ∃ n, cfg.selectors.bound c = .number n ∧ n.isNaN = false
  boolean : d = .type .boolean → ∃ b, cfg.selectors.bound c = .bool b
  date : d = .type .date ∨ d = .type .dateTime →
    cfg.selectors.bound c = .text c.firstOperand ∧ Calendar.isIso8601 c.firstOperand.toList = true
  notLikeness : ∀ t, d = .type t → t ≠ .string → ∀ n, ¬ cfg.IsLikeness n c
  member : ∀ allowed n, d = .oneOf allowed → ¬ cfg.IsLikeness n c →
    cfg.selectors.bound c = .text c.firstOperand ∧ c.firstOperand ∈ allowed

lemma domainOf_record (hs : cfg.selectors.get? c.selector = some (.record col)) :
    cfg.selectors.domainOf c.selector = col.domain := by
  simp [Selectors.domainOf, hs, Selector.domain, Selector.toColumn]

/-- What is accepted on a record is a value of its domain, unless a plugin gives it another meaning. -/
lemma accepts_of_accepted (hl : cfg.lax = false) (ha : c.Accepted cfg)
    (hs : cfg.selectors.get? c.selector = some (.record col))
    (hp : ∀ p, cfg.plugins.find? c.operator = some p → p.skipsDomain = false) :
    col.domain.accepts c.firstOperand = true := by
  obtain ⟨s, hg, hv⟩ := ha.value hl
  rw [hs] at hg
  cases hg
  rcases hv with hr | ⟨p, hf, hk⟩ | hv
  · nomatch hr
  · rw [hp p hf] at hk
    nomatch hk
  · exact hv

/-- An operand of a typed column has no wildcard, so equality compares values. -/
lemma not_hasWildcard_of_accepts {t : SelectorType} (ht : t ≠ .string)
    (ha : t.accepts c.firstOperand = true) : c.hasWildcard = false := by
  apply Bool.eq_false_iff.mpr
  intro hw
  exact SelectorType.not_mem_of_accepts ht ha (Comparison.mem_of_hasWildcard hw)

lemma bound_of_not_hasWildcard (ho : Operator.parse? c.operator = some op) (hl : op.isList = false)
    (hw : c.hasWildcard = false) :
    cfg.selectors.bound c = (cfg.selectors.domainOf c.selector).single c.firstOperand := by
  cases op with
  | in_ | out => nomatch hl
  | eq | ne | lt | le | gt | ge => simp [Selectors.bound, ho, hw, Selectors.coerce]

lemma not_isLikeness_of_not_hasWildcard (ho : Operator.parse? c.operator = some op)
    (hl : op.isList = false) (hw : c.hasWildcard = false) (n : Nat) : ¬ cfg.IsLikeness n c := by
  rintro ⟨k, hk, ht⟩
  simp only [builtInText, ho, hw, Option.map_some, Option.getD_some, String.append_left_inj,
    String.append_right_inj] at ht
  exact Operator.sign_ne_likeness hl cfg.format hk ht

lemma isLikeness_of_hasWildcard (ho : Operator.parse? c.operator = some op) (he : op = .eq ∨ op = .ne)
    (hw : c.hasWildcard = true) (n : Nat) : cfg.IsLikeness n c := by
  rcases he with rfl | rfl
  · exact ⟨.ilike, .inl rfl, by simp [builtInText, ho, hw, Operator.sign]⟩
  · exact ⟨.notIlike, .inr rfl, by simp [builtInText, ho, hw, Operator.sign]⟩

/-- Enumerated values may have wildcards in them. Only equality takes notice of them. -/
lemma bound_of_not_isLikeness {n : Nat} (ho : Operator.parse? c.operator = some op)
    (hl : op.isList = false) (hn : ¬ cfg.IsLikeness n c) :
    cfg.selectors.bound c = (cfg.selectors.domainOf c.selector).single c.firstOperand := by
  cases hw : c.hasWildcard with
  | false => exact bound_of_not_hasWildcard ho hl hw
  | true =>
    cases op with
    | in_ | out => nomatch hl
    | eq => exact absurd (isLikeness_of_hasWildcard ho (.inl rfl) hw n) hn
    | ne => exact absurd (isLikeness_of_hasWildcard ho (.inr rfl) hw n) hn
    | lt | le | gt | ge => simp [Selectors.bound, ho, Selectors.coerce]

theorem wellTyped_of_accepts (ho : Operator.parse? c.operator = some op) (hl : op.isList = false)
    (hs : cfg.selectors.get? c.selector = some (.record col))
    (ha : col.domain.accepts c.firstOperand = true) : cfg.WellTyped c col.domain := by
  have hd : cfg.selectors.domainOf c.selector = col.domain := domainOf_record hs
  have typed {t : SelectorType} (ht : col.domain = .type t) (hne : t ≠ .string) :
      t.accepts c.firstOperand = true ∧ cfg.selectors.bound c = t.single c.firstOperand ∧
        ∀ n, ¬ cfg.IsLikeness n c := by
    rw [ht] at ha hd
    have hw := not_hasWildcard_of_accepts hne ha
    exact ⟨ha, by rw [bound_of_not_hasWildcard ho hl hw, hd]; rfl,
      not_isLikeness_of_not_hasWildcard ho hl hw⟩
  constructor
  case number =>
    rintro (ht | ht)
    · obtain ⟨ha, hb, -⟩ := typed ht (by decide)
      exact ⟨_, hb, SelectorType.not_isNaN_of_accepts (.inl rfl) ha⟩
    · obtain ⟨ha, hb, -⟩ := typed ht (by decide)
      exact ⟨_, hb, SelectorType.not_isNaN_of_accepts (.inr rfl) ha⟩
  case boolean =>
    intro ht
    obtain ⟨-, hb, -⟩ := typed ht (by decide)
    exact ⟨_, hb⟩
  case date =>
    rintro (ht | ht)
    · obtain ⟨ha, hb, -⟩ := typed ht (by decide)
      simp only [SelectorType.accepts, Bool.and_eq_true] at ha
      exact ⟨hb, ha.2⟩
    · obtain ⟨ha, hb, -⟩ := typed ht (by decide)
      exact ⟨hb, ha⟩
  case notLikeness =>
    intro t ht hne
    exact (typed ht hne).2.2
  case member =>
    intro allowed n ht hn
    have hb := bound_of_not_isLikeness ho hl hn
    rw [ht, Domain.accepts] at ha
    rw [hd, ht, Domain.single, if_pos ha] at hb
    exact ⟨hb, List.contains_iff_mem.mp ha⟩

/-- In strict mode without plugins, every accepted filter binds values of the right types, at whatever depth
the comparison stands. The list and the text are those of the comparisons one by one. -/
theorem wellTyped_of_predicate (hp : cfg.plugins = ∅) (hl : cfg.lax = false) {f : Filter} {p q : Params}
    {s : String} (h : cfg.predicate (some f) p = .ok s q) :
    q = p.append (f.comparisons.map cfg.selectors.bound) ∧
      s = cfg.builtIn.render cfg.format p.size f ∧
      ∀ c, Filter.Within (.comparison c) f → ∀ op col, Operator.parse? c.operator = some op →
        op.isList = false → cfg.selectors.get? c.selector = some (.record col) →
        cfg.WellTyped c col.domain := by
  have hf : ∀ token, cfg.plugins.find? token = none := by
    rw [hp]
    exact fun _ => rfl
  obtain ⟨hc, hr⟩ := Phrasing.compile_eq_render (builtIn_describes hp) f (of_predicate_eq_ok h).2
  refine ⟨?_, hc, fun c mem op col ho hs hg => ?_⟩
  · rw [hr, valuesOf_builtIn]
  · have ha := (accepted_of_predicate_eq_ok h).comparison c mem
    apply wellTyped_of_accepts ho hs hg
    apply accepts_of_accepted hl ha hg
    intro g hg
    rw [hf] at hg
    nomatch hg

theorem wellTyped_of_predicate_users :
    let f : Filter := .not (.or [.comparison ⟨"points", "=ge=", ["10"]⟩, .comparison ⟨"tier", "!=", ["TIN"]⟩])
    let p : Params := ⟨[.text "base"]⟩
    let q : Params := ⟨[.text "base", .number (.int 10), .text "TIN"]⟩
    users.plugins = ∅ ∧ users.lax = false ∧
      users.predicate (some f) p = .ok "NOT((points>=$2 OR u.tier<>$3))" q ∧
      users.WellTyped ⟨"points", "=ge=", ["10"]⟩ (.type .integer) ∧
      users.WellTyped ⟨"tier", "!=", ["TIN"]⟩ (.oneOf ["GOLD", "TIN"]) := by
  intro f p q
  have h : users.predicate (some f) p = .ok "NOT((points>=$2 OR u.tier<>$3))" q := by
    dsimp only [f, p, q]
    rfl
  obtain ⟨-, -, hw⟩ := wellTyped_of_predicate rfl rfl h
  have mem {c : Comparison} (hc : c ∈ f.comparisons) := Filter.mem_comparisons_iff.mp hc
  refine ⟨rfl, rfl, h, ?_, ?_⟩
  · exact hw _ (mem (.head _)) .ge { domain := .type .integer } rfl rfl rfl
  · exact hw _ (mem (.tail _ (.head _))) .ne ⟨some "u.tier", none, .oneOf ["GOLD", "TIN"], none⟩
      rfl rfl rfl

end Config

/-! ### Lists of numbers -/

/-- What stands for a text that is no number, as a value or in a list. -/
def Value.holdsNaN : Value → Bool
  | .number n => n.isNaN
  | .numbers ns => ns.any Number.isNaN
  | _ => false

/-- The operator looks for its column in a list, be it built in or a plugin's. -/
def Comparison.testsList (c : Comparison) : Bool :=
  Plugin.Stock.anyOf.plugin.handles c.operator || Plugin.Stock.noneOf.plugin.handles c.operator

lemma Comparison.testsList_eq_isList {c : Comparison} {op : Operator}
    (h : Operator.parse? c.operator = some op) : c.testsList = op.isList := by
  have hs : ∀ token ∈ op.spellings, (Plugin.Stock.anyOf.plugin.handles token ||
      Plugin.Stock.noneOf.plugin.handles token) = op.isList := by
    cases op <;> decide
  exact hs c.operator (Operator.mem_spellings_of_parse? h)

/-- The numbers that a comparison is about: all of its operands, or the first. -/
def Comparison.numbers (c : Comparison) : Value :=
  if c.testsList then .numbers (c.operands.map Number.parse) else .number (Number.parse c.firstOperand)

lemma Comparison.holdsNaN_numbers_iff {c : Comparison} (ho : c.firstOperand ≠ "")
    (hn : (Number.parse c.firstOperand).isNaN = false) :
    c.numbers.holdsNaN = true ↔
      c.testsList = true ∧ ∃ o ∈ c.operands.tail, (Number.parse o).isNaN = true := by
  unfold numbers
  cases c.testsList with
  | false => simp [Value.holdsNaN, hn]
  | true =>
    obtain ⟨os, ho⟩ := exists_operands ho
    simp [Value.holdsNaN, ho, hn]

namespace Config
variable {cfg : Config} {c : Comparison} {col : Column}

/-- No plugins but those that bind lists as arrays. -/
def ArraysOnly (cfg : Config) : Prop :=
  ∀ p ∈ cfg.plugins.plugins, p = Plugin.Stock.anyOf.plugin ∨ p = Plugin.Stock.noneOf.plugin

lemma ArraysOnly.stockOnly (hp : cfg.ArraysOnly) : cfg.StockOnly := by
  intro p hm
  rcases hp p hm with rfl | rfl
  · exact ⟨_, rfl⟩
  · exact ⟨_, rfl⟩

lemma ArraysOnly.skipsDomain_eq_false (hp : cfg.ArraysOnly) {token : String} {p : Plugin}
    (h : cfg.plugins.find? token = some p) : p.skipsDomain = false := by
  rcases hp p (Registry.handles_of_find?_eq_some h).1 with rfl | rfl
  · rfl
  · rfl

/-- Under an array plugin, a comparison binds its operands as a list. -/
lemma ArraysOnly.values_of_find? (hp : cfg.ArraysOnly) {p : Plugin}
    (h : cfg.plugins.find? c.operator = some p) :
    c.testsList = true ∧ cfg.phrasing.values c = [cfg.selectors.coerce c true] := by
  obtain ⟨s, rfl, hs⟩ := hp.stockOnly.find?_eq_some h
  obtain ⟨hm, hh⟩ := Registry.handles_of_find?_eq_some h
  have ht : s = .anyOf ∨ s = .noneOf := by
    rcases hp _ hm with he | he
    · exact .inl (Plugin.Stock.eq_of_handles hh (he ▸ hh))
    · exact .inr (Plugin.Stock.eq_of_handles hh (he ▸ hh))
  rcases ht with rfl | rfl
  · exact ⟨by simp [Comparison.testsList, hh], by simp [phrasing, hs, Plugin.Stock.values,
      Plugin.Stock.isFlag, Plugin.Call.coerce, call]⟩
  · exact ⟨by simp [Comparison.testsList, hh], by simp [phrasing, hs, Plugin.Stock.values,
      Plugin.Stock.isFlag, Plugin.Call.coerce, call]⟩

lemma coerce_numeric {t : SelectorType} (ht : t = .integer ∨ t = .number)
    (hs : cfg.selectors.get? c.selector = some (.record col)) (hd : col.domain = .type t)
    (asList : Bool) : cfg.selectors.coerce c asList =
      if asList then .numbers (c.operands.map Number.parse) else .number (Number.parse c.firstOperand) := by
  simp only [Selectors.coerce, domainOf_record hs, hd]
  rcases ht with rfl | rfl <;> rfl

/-- On a column of numbers, an accepted comparison by a built-in operator binds the numbers of its operands,
as its operand has no wildcard. -/
lemma bound_eq_numbers {t : SelectorType} {op : Operator} (ht : t = .integer ∨ t = .number)
    (hs : cfg.selectors.get? c.selector = some (.record col)) (hd : col.domain = .type t)
    (ha : t.accepts c.firstOperand = true) (ho : Operator.parse? c.operator = some op) :
    cfg.selectors.bound c = c.numbers := by
  rw [Comparison.numbers, Comparison.testsList_eq_isList ho, ← coerce_numeric ht hs hd]
  cases hi : op.isList with
  | true =>
    cases op with
    | in_ | out => simp only [Selectors.bound, ho]
    | eq | ne | lt | le | gt | ge => cases hi
  | false =>
    have hne : t ≠ .string := by rcases ht with rfl | rfl <;> decide
    exact bound_of_not_hasWildcard ho hi (not_hasWildcard_of_accepts hne ha)

lemma ArraysOnly.values_eq_numbers {t : SelectorType} (hp : cfg.ArraysOnly) (ha : c.Accepted cfg)
    (ht : t = .integer ∨ t = .number) (hs : cfg.selectors.get? c.selector = some (.record col))
    (hd : col.domain = .type t) (hv : t.accepts c.firstOperand = true) :
    cfg.phrasing.values c = [c.numbers] := by
  cases hf : cfg.plugins.find? c.operator with
  | some p =>
    obtain ⟨hl, hv⟩ := hp.values_of_find? hf
    rw [hv, coerce_numeric ht hs hd, Comparison.numbers, hl]
  | none =>
    have hu : cfg.phrasing.values c = [cfg.selectors.bound c] := by
      simp [phrasing, stock?, hf, builtIn]
    have hk : Operator.isKnown c.operator = true := by
      refine Operator.isKnown_iff.mpr (ha.operator.resolve_right fun hm => ?_)
      have hi := isSome_find?_iff.mpr hm
      rw [hf] at hi
      cases hi
    obtain ⟨op, ho⟩ := Option.isSome_iff_exists.mp hk
    rw [hu, bound_eq_numbers ht hs hd hv ho]

/-- In strict mode, with array plugins at most, a comparison on a column of numbers binds one value. What
stands for no number is in it only if it is a list, and there only in place of an operand behind the first:
this one has been validated. -/
theorem numbers_of_predicate (hp : cfg.ArraysOnly) (hl : cfg.lax = false) {f : Filter} {p q : Params}
    {s : String} (h : cfg.predicate (some f) p = .ok s q) :
    q = p.append (f.comparisons.flatMap cfg.phrasing.values) ∧
      ∀ c, Filter.Within (.comparison c) f → ∀ col t, cfg.selectors.get? c.selector = some (.record col) →
        col.domain = .type t → t = .integer ∨ t = .number →
        cfg.phrasing.values c = [c.numbers] ∧ (c.numbers.holdsNaN = true ↔
          c.testsList = true ∧ ∃ o ∈ c.operands.tail, (Number.parse o).isNaN = true) := by
  obtain ⟨-, hq⟩ := Phrasing.compile_eq_render (phrasing_describes hp.stockOnly) f (of_predicate_eq_ok h).2
  refine ⟨hq, fun c mem col t hs hd ht => ?_⟩
  have ha := (accepted_of_predicate_eq_ok h).comparison c mem
  have hv := accepts_of_accepted hl ha hs fun _ => hp.skipsDomain_eq_false
  rw [hd] at hv
  exact ⟨hp.values_eq_numbers ha ht hs hd hv,
    Comparison.holdsNaN_numbers_iff ha.operand (SelectorType.not_isNaN_of_accepts ht hv)⟩

/-- A list whose second operand is no number is accepted, and binds what stands for no number. -/
theorem predicate_binds_nan :
    let f : Filter := .comparison ⟨"points", "=in=", ["1", "abc"]⟩
    let v : Value := .numbers [.int 1, .float .nan]
    users.plugins = ∅ ∧ users.lax = false ∧
      users.selectors.get? "points" = some (.record { domain := .type .integer }) ∧
      users.predicate (some f) ⟨[]⟩ = .ok "points IN $1" ⟨[v]⟩ ∧ v.holdsNaN = true := by
  refine ⟨rfl, rfl, rfl, rfl, rfl⟩

/-- Lists in the spelling of a plugin and of the built-in operator, the second with a text that is no
number. -/
theorem numbers_of_predicate_users :
    let cfg := { users with plugins := ⟨[Plugin.Stock.anyOf.plugin]⟩ }
    let c : Comparison := ⟨"points", "=IN=", ["16", " 7 "]⟩
    let d : Comparison := ⟨"points", "=out=", ["1", "two"]⟩
    cfg.ArraysOnly ∧ cfg.lax = false ∧
      cfg.predicate (some (.or [.comparison c, .comparison d])) ⟨[]⟩ =
        .ok "(points = ANY($1) OR points NOT IN $2)" ⟨[c.numbers, d.numbers]⟩ ∧
      c.numbers.holdsNaN = false ∧ d.numbers.holdsNaN = true := by
  intro cfg c d
  have hp : cfg.ArraysOnly := fun p hm => .inl (List.mem_singleton.mp hm)
  have h : cfg.predicate (some (.or [.comparison c, .comparison d])) ⟨[]⟩ =
      .ok "(points = ANY($1) OR points NOT IN $2)" ⟨[c.numbers, d.numbers]⟩ := by
    dsimp only [cfg, c, d]
    rfl
  obtain ⟨-, hb⟩ := numbers_of_predicate hp rfl h
  obtain ⟨-, hc⟩ := hb c (.operand (.head _) (.whole _)) _ .integer rfl rfl (.inl rfl)
  obtain ⟨-, hd⟩ := hb d (.operand (.tail _ (.head _)) (.whole _)) _ .integer rfl rfl (.inl rfl)
  refine ⟨hp, rfl, h, Bool.eq_false_iff.mpr fun hn => ?_, hd.mpr ⟨?_, "two", .head _, rfl⟩⟩
  · obtain ⟨-, o, ho, ht⟩ := hc.mp hn
    cases List.mem_singleton.mp ho
    nomatch ht
  · dsimp only [d]
    decide

end Config
end Listing
