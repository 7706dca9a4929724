import Listing.Proofs.Acceptance
import Listing.Proofs.Stock

/-! Comparisons with a flag. They bind nothing, so what stands before such a comparison in a filter hands its list over
to what stands behind. The check of the operand, which is the only one there is, sees the first operand. -/
namespace Listing

namespace Config
variable {cfg : Config} {p q w : Params} {s : String}

/-! ### One comparison after another -/

/-- The comparisons, compiled one after another, make the list `q` of the list `p`. -/
inductive Steps (cfg : Config) : List Comparison → Params → Params → Prop
  | done (p : Params) : Steps cfg [] p p
  | step {c : Comparison} {cs : List Comparison} {p w q : Params} {s : String}
      (first : cfg.compileComparison c p = .ok s w) (others : Steps cfg cs w q) : Steps cfg (c :: cs) p q

lemma Steps.append {cs ds : List Comparison} (hc : cfg.Steps cs p w) (hd : cfg.Steps ds w q) :
    cfg.Steps (cs ++ ds) p q := by
  induction hc with
  | done => exact hd
  | step first _ ih => exact .step first (ih hd)

lemma Steps.of_append {cs ds : List Comparison} (h : cfg.Steps (cs ++ ds) p q) :
    ∃ w, cfg.Steps cs p w ∧ cfg.Steps ds w q := by
  induction cs generalizing p with
  | nil => exact ⟨p, .done p, h⟩
  | cons c cs ih =>
    cases h with
    | step first others =>
      obtain ⟨w, hc, hd⟩ := ih others
      exact ⟨w, .step first hc, hd⟩

mutual

/-- Groups do not touch the list: a filter does to it what its comparisons do, in reading order. -/
theorem steps_of_compile {p q : Params} {s : String} : (f : Filter) → cfg.compile f p = .ok s q →
    cfg.Steps f.comparisons p q
  | .comparison _, h => .step h (.done q)
  | .group k os, h => by
    rcases of_compile_group_eq_ok h with ⟨parts, -, hc, -⟩ | ⟨f, t, -, rfl, -, hc, -⟩
    · exact steps_of_compileAll os hc
    · simpa [Filter.comparisons, Operand.comparisons] using steps_of_compile f hc

theorem steps_of_compileAll {p q : Params} {parts : List String} : (os : List Operand) →
    cfg.compileAll os p = .ok parts q → cfg.Steps (Operand.comparisons os) p q
  | [], h => by
    cases h
    exact .done p
  | o :: os, h => by
    obtain ⟨f, t, w, rest, rfl, hf, hos, -⟩ := of_compileAll_cons_eq_ok h
    exact (steps_of_compile f hf).append (steps_of_compileAll os hos)

end

end Config

/-! ### Flags -/

namespace Plugin

lemma flagCheck_eq_ok_iff {c : Comparison} :
    flagCheck c = .ok () ↔ c.firstOperand = "true" ∨ c.firstOperand = "false" := by
  simp only [flagCheck, Bool.or_eq_true, decide_eq_true_eq]
  split
  · rename_i h
    exact iff_of_true rfl h
  · rename_i h
    refine iff_of_false ?_ h
    split <;> exact nofun

/-- Some tests are turned around by `false`, and one by all that is not `true`. The check lets through just the
operands that do both or neither. -/
theorem flagCheck_eq_ok_iff_agree {c : Comparison} :
    flagCheck c = .ok () ↔ (c.firstOperand == "false") = (c.firstOperand != "true") := by
  rw [flagCheck_eq_ok_iff]
  by_cases ht : c.firstOperand = "true"
  · simp [ht]
  · simp [ht, bne, beq_eq_false_iff_ne.mpr ht]

namespace Stock
variable {t : Stock} (ht : t.isFlag = true)
include ht

lemma check_eq_flagCheck : t.plugin.check = flagCheck := by
  cases t with
  | anyOf | noneOf => nomatch ht
  | isNull | isEmpty | isNullOrEmpty => rfl

end Stock
end Plugin

namespace Config
variable {cfg : Config} {c d : Comparison} {t : Plugin.Stock}

/-- A comparison with a flag has the same text on every list, and leaves the list as it is. -/
lemma compileComparison_of_isFlag (ht : t.isFlag = true) (hf : cfg.plugins.find? c.operator = some t.plugin)
    (ho : c.firstOperand = "true" ∨ c.firstOperand = "false") (w : Params) :
    cfg.compileComparison c w = .ok (t.text (cfg.call c) 0) w := by
  have hc : t.plugin.check c = .ok () := by
    rw [Plugin.Stock.check_eq_flagCheck ht]
    exact Plugin.flagCheck_eq_ok_iff.mpr ho
  have hv : t.values (cfg.call c) = [] := if_pos ht
  have hn : t.text (cfg.call c) w.size = t.text (cfg.call c) 0 := by
    cases t with
    | anyOf | noneOf => nomatch ht
    | isNull | isEmpty | isNullOrEmpty => rfl
  have hr := Plugin.Stock.render_run t (cfg.call c) w
  rw [hv, Params.append_nil, hn] at hr
  simp only [compileComparison, hf, runPlugin, hc]
  exact (Binding.ofState_run _ w).trans (by rw [← call, hr])

/-- Of the operands of such a comparison, only the first matters. -/
lemma accepted_of_isFlag (ht : t.isFlag = true) (hf : cfg.plugins.find? c.operator = some t.plugin)
    (ha : c.Accepted cfg) (hs : d.selector = c.selector) (ho : d.operator = c.operator)
    (hd : d.firstOperand = c.firstOperand) : d.Accepted cfg where
  operator := ho ▸ ha.operator
  operand := hd ▸ ha.operand
  value hl := by
    rw [hs, ho, hd]
    exact ha.value hl
  check g hg := by
    rw [ho] at hg
    have hc := ha.check g hg
    rw [hf] at hg
    cases hg
    rw [Plugin.Stock.check_eq_flagCheck ht, Plugin.flagCheck_eq_ok_iff] at hc ⊢
    rwa [hd]

/-- In an accepted filter, every comparison that a flag plugin handles, at whatever depth, has a flag as its first
operand. It binds nothing: what stands behind it goes on with the list that was left by what stands before it. Operands
behind the flag are let through, whatever they are, and change nothing; so the flag is the only operand just where none
follow it. -/
theorem flag_of_predicate {f : Filter} {p q : Params} {s : String} (h : cfg.predicate (some f) p = .ok s q)
    (ht : t.isFlag = true) (mem : Filter.Within (.comparison c) f)
    (hf : cfg.plugins.find? c.operator = some t.plugin) :
    ∃ flag rest text, (flag = "true" ∨ flag = "false") ∧ c.operands = flag :: rest ∧
      (c.operands = ["true"] ∨ c.operands = ["false"] ↔ rest = []) ∧
      (∀ before after, f.comparisons = before ++ c :: after →
        ∃ w, cfg.Steps before p w ∧ cfg.compileComparison c w = .ok text w ∧ cfg.Steps after w q) ∧
      ∀ others, Comparison.Accepted cfg { c with operands := flag :: others } ∧
        ∀ w, cfg.compileComparison { c with operands := flag :: others } w = .ok text w := by
  have ha : c.Accepted cfg := (accepted_of_predicate_eq_ok h).comparison c mem
  have ho : c.firstOperand = "true" ∨ c.firstOperand = "false" := by
    have hc := ha.check _ hf
    rwa [Plugin.Stock.check_eq_flagCheck ht, Plugin.flagCheck_eq_ok_iff] at hc
  obtain ⟨rest, hr⟩ := Comparison.exists_operands ha.operand
  have hc := compileComparison_of_isFlag ht hf ho
  refine ⟨c.firstOperand, rest, t.text (cfg.call c) 0, ho, hr, ?_, ?_, fun others => ⟨?_, ?_⟩⟩
  · rw [hr]
    rcases ho with ho | ho <;> simp [ho]
  · intro before after hs
    have hq := steps_of_compile f (of_predicate_eq_ok h).2
    rw [hs] at hq
    obtain ⟨w, hb, hca⟩ := hq.of_append
    cases hca with
    | step first others =>
      rw [hc w] at first
      cases first
      exact ⟨w, hb, hc w, others⟩
  · exact accepted_of_isFlag ht hf ha rfl rfl rfl
  · intro w
    have ht' : t.text (cfg.call { c with operands := c.firstOperand :: others }) 0 = t.text (cfg.call c) 0 :=
      Plugin.Stock.text_congr rfl rfl fun _ => rfl
    have hd := compileComparison_of_isFlag (c := { c with operands := c.firstOperand :: others }) ht hf ho w
    rwa [ht'] at hd

/-- Users with flags: whether a name is there, and whether it has letters. -/
def flagged : Config := { users with plugins := ⟨[Plugin.Stock.isNull.plugin, Plugin.Stock.isEmpty.plugin]⟩ }

/-- A flag in other letters, below a negation and between comparisons that bind values. -/
theorem flag_of_predicate_users :
    let c : Comparison := ⟨"name", "=NULL=", ["false"]⟩
    let d : Comparison := ⟨"points", ">", ["1"]⟩
    let e : Comparison := ⟨"points", "<", ["9"]⟩
    let f : Filter := .and [.comparison d, .not (.or [.comparison c, .comparison e])]
    let p : Params := ⟨[.text "base"]⟩
    let q : Params := ⟨[.text "base", .number (.int 1), .number (.int 9)]⟩
    flagged.predicate (some f) p = .ok "(points>$2 AND NOT((u.name IS NOT null OR points<$3)))" q ∧
      Plugin.Stock.isNull.isFlag = true ∧ Filter.Within (.comparison c) f ∧
      flagged.plugins.find? c.operator = some Plugin.Stock.isNull.plugin ∧
      (c.operands = ["true"] ∨ c.operands = ["false"]) ∧
      ∃ w text, flagged.Steps [d] p w ∧ flagged.compileComparison c w = .ok text w ∧ flagged.Steps [e] w q := by
  intro c d e f p q
  have h : flagged.predicate (some f) p = .ok "(points>$2 AND NOT((u.name IS NOT null OR points<$3)))" q := by
    dsimp only [f, p, q, c, d, e]
    rfl
  have mem : Filter.Within (.comparison c) f :=
    .operand (.tail _ (.head _)) (.operand (.head _) (.operand (.head _) (.whole _)))
  have hf : flagged.plugins.find? c.operator = some Plugin.Stock.isNull.plugin := by
    dsimp only [c]
    rfl
  obtain ⟨flag, rest, text, -, hr, ho, hs, -⟩ := flag_of_predicate h rfl mem hf
  cases hr
  obtain ⟨w, hb, hc, ha⟩ := hs [d] [e] rfl
  exact ⟨h, rfl, mem, hf, ho.mpr rfl, w, text, hb, hc, ha⟩

/-- Two flags are no fault, and the second is not looked at. -/
theorem predicate_ignores_second_flag :
    let c : Comparison := ⟨"name", "=null=", ["true", "false"]⟩
    flagged.plugins.find? c.operator = some Plugin.Stock.isNull.plugin ∧
      flagged.predicate (some (.comparison c)) ⟨[]⟩ = .ok "u.name IS null" ⟨[]⟩ ∧
      c.operands ≠ ["true"] ∧ c.operands ≠ ["false"] := by
  refine ⟨rfl, rfl, ?_, ?_⟩ <;> decide

end Config
end Listing
