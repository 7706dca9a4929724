import Listing.Plugin.Stock
import Listing.Proofs.BuiltIn

/-! Which filters compile. Two passes look at a filter: validation, which stops at every negation, and
compilation, which validates what stands below a negation when it comes there. Together they see every
part once, so a filter compiles exactly if each of its parts, at whatever depth, is in order by itself. -/
namespace Listing

/-- What a comparison needs. -/
structure Comparison.Accepted (cfg : Config) (c : Comparison) : Prop where
  /-- The operator is built in, or a plugin handles it. -/
  operator : (∃ op : Operator, c.operator ∈ op.spellings) ∨
    ∃ p ∈ cfg.plugins.plugins, Text.sameIgnoringCase p.token c.operator = true
  operand : c.firstOperand ≠ ""
  /-- The field has a selector that takes the operand, unless the selector takes everything or the plugin
  that handles the operator gives the operand a meaning of its own. -/
  value : cfg.lax = false → ∃ s, cfg.selectors.get? c.selector = some s ∧
    ((∃ sql, s = .bare sql) ∨ (∃ p, cfg.plugins.find? c.operator = some p ∧ p.skipsDomain = true) ∨
      s.accepts c.firstOperand = true)
  check : ∀ p, cfg.plugins.find? c.operator = some p → p.check c = .ok ()

/-- The operands that a connective needs. -/
def Connective.Fits : Connective → List Operand → Prop
  | .not, os => ∃ f, os = [.filter f]
  | _, os => os ≠ [] ∧ ∀ o ∈ os, ∃ f, o = .filter f

/-- A check of filters, made of operands one after another up to the first at fault. A stray text is
always at fault. -/
def Operand.checkAll (check : Filter → Except Error Unit) : List Operand → Except Error Unit
  | [] => .ok ()
  | .filter f :: os => check f >>= fun _ => checkAll check os
  | .stray s :: _ => .error (.invalidOperand (Operand.stray s).text)

/-- Every part is in order. -/
structure Filter.Accepted (cfg : Config) (f : Filter) : Prop where
  comparison : ∀ c, Within (.comparison c) f → c.Accepted cfg
  group : ∀ k os, Within (.group k os) f → k.Fits os

namespace Config
variable (cfg : Config)

/-- What compilation finds wrong with a comparison. -/
def inspectComparison (c : Comparison) : Except Error Unit :=
  match cfg.plugins.find? c.operator with
  | some p =>
    match p.check c with
    | .error message => .error (.pluginInvariant c.operator message)
    | .ok () => .ok ()
  | none =>
    if Operator.isKnown c.operator then .ok () else .error (.unsupportedFilter ("operator " ++ c.operator))

mutual

/-- What compilation finds wrong with a filter: its verdict without the text and the list. -/
def inspect : Filter → Except Error Unit
  | .comparison c => cfg.inspectComparison c
  | .group .not [.filter f] => cfg.validate f >>= fun _ => inspect f
  | .group .not [.stray s] => .error (.invalidOperand (Operand.stray s).text)
  | .group .not os => .error (.unsupportedFilter ("not with " ++ toString os.length ++ " operands"))
  | .group .and os => inspectAll os
  | .group .or os => inspectAll os

def inspectAll : List Operand → Except Error Unit
  | [] => .ok ()
  | .filter f :: os => inspect f >>= fun _ => inspectAll os
  | .stray s :: _ => .error (.invalidOperand (Operand.stray s).text)

end

variable {cfg}

lemma verdict_compileComparison (c : Comparison) (p : Params) :
    (cfg.compileComparison c).verdict p = cfg.inspectComparison c := by
  unfold compileComparison inspectComparison
  cases cfg.plugins.find? c.operator with
  | some g =>
    simp only [runPlugin]
    cases g.check c <;> rfl
  | none =>
    cases ho : Operator.parse? c.operator with
    | some op => simp only [Operator.isKnown, ho]; rfl
    | none => simp only [Operator.isKnown, ho]; rfl

mutual

/-- Whether a filter compiles does not depend on the list, and neither does the reason if it does not. -/
theorem verdict_compile (p : Params) : (f : Filter) → (cfg.compile f).verdict p = cfg.inspect f
  | .comparison c => verdict_compileComparison c p
  | .group .and os => (Binding.verdict_bind_pure _ _ p).trans (verdict_compileAll p os)
  | .group .or os => (Binding.verdict_bind_pure _ _ p).trans (verdict_compileAll p os)
  | .group .not [] => rfl
  | .group .not [.stray _] => rfl
  | .group .not (o₁ :: o₂ :: os) => by
    rw [compile_not_cons_cons]
    simp [inspect]
  | .group .not [.filter f] => by
    have hf (q : Params) := (Binding.verdict_bind_pure (cfg.compile f)
      (fun s => cfg.format.keyword .not ++ "(" ++ s ++ ")") q).trans (verdict_compile q f)
    exact (Binding.verdict_bind fun _ q => hf q).trans (by rw [Binding.verdict_ofExcept, inspect])

theorem verdict_compileAll (p : Params) :
    (os : List Operand) → (cfg.compileAll os).verdict p = cfg.inspectAll os
  | [] => rfl
  | .stray _ :: _ => rfl
  | .filter f :: os => by
    have hos (part : String) (q : Params) := (Binding.verdict_bind_pure (cfg.compileAll os)
      (part :: ·) q).trans (verdict_compileAll q os)
    exact (Binding.verdict_bind hos).trans (by rw [verdict_compile p f, inspectAll])

end

/-- Both passes over a filter, one after the other. -/
theorem verdict_predicate (p : Params) (f : Filter) :
    (cfg.predicate (some f)).verdict p = (cfg.validate f >>= fun _ => cfg.inspect f) := by
  have hb := Binding.verdict_bind (p := p) (x := Binding.ofExcept (cfg.validate f)) fun _ q =>
    @verdict_compile cfg q f
  rw [Binding.verdict_ofExcept] at hb
  exact (Binding.verdict_restoring _ p).trans hb

/-! ### Both passes succeed -/

lemma and_then_eq_ok_iff {x y : Except Error Unit} :
    (x >>= fun _ => y) = .ok () ↔ x = .ok () ∧ y = .ok () := by
  cases x <;> simp [bind, Except.bind]

lemma checkValue_eq_ok_iff {skips : Bool} {field value : String} :
    cfg.checkValue skips field value = .ok () ↔ ∃ s, cfg.selectors.get? field = some s ∧
      ((∃ sql, s = .bare sql) ∨ skips = true ∨ s.accepts value = true) := by
  unfold checkValue
  cases cfg.selectors.get? field with
  | none => simp
  | some s =>
    have hb : (!s.isRecord || skips || s.accepts value) = true ↔
        (∃ sql, s = .bare sql) ∨ skips = true ∨ s.accepts value = true := by
      cases s <;> simp [Selector.isRecord]
    simp only [Option.some.injEq, exists_eq_left', ← hb]
    split
    · rename_i h
      exact iff_of_true rfl h
    · rename_i h
      exact iff_of_false (fun he => nomatch he) h

lemma isSome_find?_iff {token : String} :
    (cfg.plugins.find? token).isSome = true ↔ ∃ p ∈ cfg.plugins.plugins, p.handles token = true :=
  List.find?_isSome

lemma checkComparison_eq_ok_iff {c : Comparison} :
    cfg.checkComparison c = .ok () ↔
      (Operator.isKnown c.operator = true ∨ (cfg.plugins.find? c.operator).isSome = true) ∧
      c.firstOperand ≠ "" ∧ (cfg.lax = false →
        cfg.checkValue ((cfg.plugins.find? c.operator).any (·.skipsDomain)) c.selector c.firstOperand
          = .ok ()) := by
  unfold checkComparison
  by_cases hk : Operator.isKnown c.operator = true ∨ (cfg.plugins.find? c.operator).isSome = true
  · have hn : (!Operator.isKnown c.operator && (cfg.plugins.find? c.operator).isNone) = false := by
      rcases hk with hk | hk <;> simp [hk, ← Option.not_isSome]
    by_cases hv : c.firstOperand = ""
    · simp [hn, hv]
    · cases hl : cfg.lax <;> simp [hn, hk, hv]
  · obtain ⟨hk₁, hk₂⟩ := not_or.mp hk
    have hn : (!Operator.isKnown c.operator && (cfg.plugins.find? c.operator).isNone) = true := by
      simp [hk₁, ← Option.not_isSome, hk₂]
    simp [hn, hk]

lemma inspectComparison_eq_ok_iff {c : Comparison}
    (hk : Operator.isKnown c.operator = true ∨ (cfg.plugins.find? c.operator).isSome = true) :
    cfg.inspectComparison c = .ok () ↔ ∀ p, cfg.plugins.find? c.operator = some p → p.check c = .ok () := by
  unfold inspectComparison
  cases hf : cfg.plugins.find? c.operator with
  | none =>
    rw [hf] at hk
    simpa using hk
  | some p => cases hc : p.check c <;> simp [hc]

/-- For a comparison that no negation hides, both passes together check all that it needs. -/
lemma comparison_passes_iff {c : Comparison} :
    cfg.checkComparison c = .ok () ∧ cfg.inspectComparison c = .ok () ↔ c.Accepted cfg := by
  rw [checkComparison_eq_ok_iff]
  constructor
  · rintro ⟨⟨hk, hv, hd⟩, hi⟩
    have hk' := hk.imp Operator.isKnown_iff.mp isSome_find?_iff.mp
    refine ⟨hk', hv, fun hl => ?_, (inspectComparison_eq_ok_iff hk).mp hi⟩
    obtain ⟨s, hs, ha⟩ := checkValue_eq_ok_iff.mp (hd hl)
    exact ⟨s, hs, by simpa [Option.any_eq_true] using ha⟩
  · rintro ⟨hk, hv, hd, hi⟩
    have hk' := hk.imp Operator.isKnown_iff.mpr isSome_find?_iff.mpr
    refine ⟨⟨hk', hv, fun hl => ?_⟩, (inspectComparison_eq_ok_iff hk').mpr hi⟩
    obtain ⟨s, hs, ha⟩ := hd hl
    exact checkValue_eq_ok_iff.mpr ⟨s, hs, by simpa [Option.any_eq_true] using ha⟩

lemma validateAll_eq_checkAll (os : List Operand) :
    cfg.validateAll os = Operand.checkAll cfg.validate os := by
  induction os with
  | nil => rfl
  | cons o os ih => cases o <;> simp only [validateAll, Operand.checkAll, ih]

lemma inspectAll_eq_checkAll (os : List Operand) :
    cfg.inspectAll os = Operand.checkAll cfg.inspect os := by
  induction os with
  | nil => rfl
  | cons o os ih => cases o <;> simp only [inspectAll, Operand.checkAll, ih]

lemma checkAll_eq_ok_iff {check : Filter → Except Error Unit} {os : List Operand} :
    Operand.checkAll check os = .ok () ↔ ∀ o ∈ os, ∃ f, o = .filter f ∧ check f = .ok () := by
  induction os with
  | nil => simp [Operand.checkAll]
  | cons o os ih => cases o <;> simp [Operand.checkAll, and_then_eq_ok_iff, ih]

lemma forall_operand_iff {P : Filter → Prop} {os : List Operand} :
    (∀ o ∈ os, ∃ f, o = .filter f ∧ P f) ↔
      (∀ o ∈ os, ∃ f, o = .filter f) ∧ ∀ f, .filter f ∈ os → P f := by
  constructor
  · intro h
    refine ⟨fun o ho => (h o ho).imp fun f hf => hf.1, fun f hf => ?_⟩
    obtain ⟨g, hg, hP⟩ := h _ hf
    cases hg
    exact hP
  · rintro ⟨hs, hP⟩ o ho
    obtain ⟨f, rfl⟩ := hs o ho
    exact ⟨f, rfl, hP f ho⟩

/-- Validation leaves alone what stands below a negation. -/
lemma validate_group_eq_ok_iff {k : Connective} {os : List Operand} :
    cfg.validate (.group k os) = .ok () ↔
      k.Fits os ∧ (k ≠ .not → ∀ f, .filter f ∈ os → cfg.validate f = .ok ()) := by
  cases k with
  | not =>
    match os with
    | [] => simp [validate, Operand.only?, Connective.Fits, bind, Except.bind]
    | [.stray s] => simp [validate, Operand.only?, Operand.filter?, Connective.Fits, bind, Except.bind]
    | [.filter f] =>
      simp [validate, Operand.only?, Operand.filter?, Connective.Fits, bind, Except.bind, pure, Except.pure]
    | o₁ :: o₂ :: os => simp [validate, Operand.only?, Connective.Fits, bind, Except.bind]
  | and | or =>
    cases os with
    | nil => simp [validate, Connective.Fits]
    | cons o os =>
      change cfg.validateAll (o :: os) = .ok () ↔ _
      rw [validateAll_eq_checkAll, checkAll_eq_ok_iff, forall_operand_iff]
      simp [Connective.Fits]

/-- Compilation validates it there. -/
lemma inspect_group_eq_ok_iff {k : Connective} {os : List Operand} (hk : k.Fits os) :
    cfg.inspect (.group k os) = .ok () ↔
      ∀ f, .filter f ∈ os → (k = .not → cfg.validate f = .ok ()) ∧ cfg.inspect f = .ok () := by
  cases k with
  | not =>
    obtain ⟨f, rfl⟩ := hk
    simp [inspect, and_then_eq_ok_iff]
  | and | or =>
    rw [inspect, inspectAll_eq_checkAll, checkAll_eq_ok_iff, forall_operand_iff, and_iff_right hk.2]
    simp

end Config

namespace Filter
variable {cfg : Config}

lemma accepted_comparison_iff {c : Comparison} :
    (comparison c).Accepted cfg ↔ c.Accepted cfg := by
  constructor
  · intro h
    exact h.comparison c (.whole _)
  · intro h
    refine ⟨fun d hd => ?_, fun k os hg => ?_⟩
    · cases within_comparison_iff.mp hd
      exact h
    · nomatch within_comparison_iff.mp hg

lemma accepted_group_iff {k : Connective} {os : List Operand} :
    (group k os).Accepted cfg ↔ k.Fits os ∧ ∀ f, .filter f ∈ os → f.Accepted cfg := by
  constructor
  · intro h
    exact ⟨h.group k os (.whole _), fun f hf => ⟨fun c hc => h.comparison c (.operand hf hc),
      fun l ps hg => h.group l ps (.operand hf hg)⟩⟩
  · rintro ⟨hk, ho⟩
    refine ⟨fun c hc => ?_, fun l ps hg => ?_⟩
    · rcases within_group_iff.mp hc with h | ⟨f, hf, hc⟩
      · nomatch h
      · exact (ho f hf).comparison c hc
    · rcases within_group_iff.mp hg with h | ⟨f, hf, hg⟩
      · cases h
        exact hk
      · exact (ho f hf).group l ps hg

end Filter

namespace Config
variable {cfg : Config}

/-- The passes meet at the negations: what validation leaves out of a group, compilation takes up. -/
theorem passes_iff (f : Filter) :
    cfg.validate f = .ok () ∧ cfg.inspect f = .ok () ↔ f.Accepted cfg := by
  induction f using Filter.induction with
  | comparison c =>
    rw [Filter.accepted_comparison_iff, ← comparison_passes_iff, validate, inspect]
  | group k os ih =>
    rw [Filter.accepted_group_iff, validate_group_eq_ok_iff]
    constructor
    · rintro ⟨⟨hk, hv⟩, hi⟩
      refine ⟨hk, fun f hf => (ih f hf).mp ?_⟩
      obtain ⟨hn, hc⟩ := (inspect_group_eq_ok_iff hk).mp hi f hf
      by_cases hkn : k = .not
      · exact ⟨hn hkn, hc⟩
      · exact ⟨hv hkn f hf, hc⟩
    · rintro ⟨hk, ho⟩
      have hp (f : Filter) (hf : .filter f ∈ os) := (ih f hf).mpr (ho f hf)
      exact ⟨⟨hk, fun _ f hf => (hp f hf).1⟩,
        (inspect_group_eq_ok_iff hk).mpr fun f hf => ⟨fun _ => (hp f hf).1, (hp f hf).2⟩⟩

lemma accepted_of_predicate_eq_ok {f : Filter} {p q : Params} {s : String}
    (h : cfg.predicate (some f) p = .ok s q) : f.Accepted cfg := by
  have hv := Binding.verdict_eq_ok_iff.mpr ⟨s, q, h⟩
  rw [verdict_predicate, and_then_eq_ok_iff] at hv
  exact (passes_iff f).mp hv

/-- A filter compiles, on any list, exactly if each of its comparisons and groups is in order, at every
depth and below any nesting of negations. -/
theorem predicate_succeeds_iff (f : Filter) (p : Params) :
    (∃ s q, cfg.predicate (some f) p = .ok s q) ↔
      (∀ c, Filter.Within (.comparison c) f → c.Accepted cfg) ∧
        ∀ k os, Filter.Within (.group k os) f → k.Fits os := by
  rw [← Binding.verdict_eq_ok_iff, verdict_predicate, and_then_eq_ok_iff, passes_iff]
  exact ⟨fun h => ⟨h.comparison, h.group⟩, fun h => ⟨h.1, h.2⟩⟩

/-- The users with a test for null columns. -/
def usersWithNull : Config := { users with plugins := ⟨[Plugin.Stock.isNull.plugin]⟩ }

/-- Below two negations, a comparison is in order with a number; with a word it is in lax mode only. The operator of a
plugin may have other letters, but the plugin has a say in its operands, and an empty group is wrong at any depth. -/
theorem predicate_succeeds_iff_users :
    let lax : Config := { usersWithNull with lax := true }
    let filter (flag points : String) : Filter := .or [.comparison ⟨"name", "==", ["*ice"]⟩,
      .not (.and [.comparison ⟨"tier", "=NULL=", [flag]⟩, .not (.comparison ⟨"points", "=gt=", [points]⟩)])]
    let p : Params := ⟨[.text "base"]⟩
    let s := "(u.name ILIKE $2 OR NOT((u.tier IS null AND NOT(points>$3))))"
    usersWithNull.predicate (some (filter "true" "10")) p =
        .ok s ⟨[.text "base", .text "%ice", .number (.int 10)]⟩ ∧
      Comparison.Accepted usersWithNull ⟨"tier", "=NULL=", ["true"]⟩ ∧
      (¬ ∃ s q, usersWithNull.predicate (some (filter "true" "many")) p = .ok s q) ∧
      lax.predicate (some (filter "true" "many")) p =
        .ok s ⟨[.text "base", .text "%ice", .number (.float .nan)]⟩ ∧
      (¬ ∃ s q, lax.predicate (some (filter "yes" "10")) p = .ok s q) ∧
      ¬ ∃ s q, lax.predicate (some (.not (.or []))) p = .ok s q := by
  intro lax filter p s
  have hs : usersWithNull.predicate (some (filter "true" "10")) p =
      .ok s ⟨[.text "base", .text "%ice", .number (.int 10)]⟩ := by
    dsimp only [filter, p, s]
    rfl
  have hl : lax.predicate (some (filter "true" "many")) p =
      .ok s ⟨[.text "base", .text "%ice", .number (.float .nan)]⟩ := by
    dsimp only [lax, filter, p, s]
    rfl
  have tier {flag points : String} : Filter.Within (.comparison ⟨"tier", "=NULL=", [flag]⟩) (filter flag points) :=
    .operand (.tail _ (.head _)) (.operand (.head _) (.operand (.head _) (.whole _)))
  have greater {flag points : String} : Filter.Within (.comparison ⟨"points", "=gt=", [points]⟩) (filter flag points) :=
    .operand (.tail _ (.head _)) (.operand (.head _) (.operand (.tail _ (.head _)) (.operand (.head _) (.whole _))))
  refine ⟨hs, ((predicate_succeeds_iff _ p).mp ⟨_, _, hs⟩).1 _ tier, ?word, hl, ?flag, ?empty⟩
  case word =>
    rw [predicate_succeeds_iff]
    rintro ⟨h, -⟩
    obtain ⟨column, hc, hv⟩ := (h _ greater).value rfl
    cases hc
    rcases hv with hv | ⟨g, hg, -⟩ | hv
    · nomatch hv
    · have hn : usersWithNull.plugins.find? "=gt=" = none := rfl
      nomatch hn.symm.trans hg
    · exact absurd hv (by decide +kernel)
  case flag =>
    rw [predicate_succeeds_iff]
    rintro ⟨h, -⟩
    nomatch (h _ tier).check Plugin.Stock.isNull.plugin rfl
  case empty =>
    rw [predicate_succeeds_iff]
    rintro ⟨-, h⟩
    exact (h .or [] (.operand (.head _) (.whole _))).1 rfl

end Config
end Listing
