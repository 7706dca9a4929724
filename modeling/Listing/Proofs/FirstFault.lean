import Listing.Proofs.BuiltIn
import Listing.Proofs.Occurrence

/-! Which fault of a filter is reported. A filter has a list of faults, all that is wrong with it in reading
order: every check of every comparison and group is made, whatever the checks before it found, down to the
negations, into which validation does not look. Validation makes these checks only up to the first that fails,
and reports the head of the list. -/
namespace Listing

/-- The first of some faults is reported, and success if there is none. -/
def Error.first : List Error → Except Error Unit
  | [] => .ok ()
  | e :: _ => .error e

lemma Error.first_append (ds es : List Error) : first (ds ++ es) = first ds >>= fun _ => first es := by
  cases ds <;> rfl

lemma Error.mem_of_first {es : List Error} {e : Error} (h : first es = .error e) : e ∈ es := by
  cases es with
  | nil => nomatch h
  | cons d es =>
    cases h
    exact .head _

/-- What is wrong with a value. A column without a declared type takes every value, and the allowed values of an
enumerated one stand in place of a type. -/
def Domain.faults (field value : String) : Domain → List Error
  | any => []
  | type t => if t.accepts value then [] else [.invalidValue field value t.name]
  | oneOf allowed => if value ∈ allowed then [] else [.notInEnum field value (Json.ofStrings allowed).text]

/-- What is wrong with the operands of a negation, of which there is to be one, a filter. -/
def Operand.negationFaults : List Operand → List Error
  | [] => [.missingOperands Connective.not.name]
  | [o] =>
    match o with
    | .filter _ => []
    | .stray s => [.invalidOperand (stray s).text]
  | _ :: o :: _ => [.invalidOperand o.text]

namespace Config
variable (cfg : Config)

/-- What is wrong with a field, or with a value there. -/
def fieldFaults (skips : Bool) (field value : String) : List Error :=
  match cfg.selectors.get? field with
  | none => [.unknownSelector field]
  | some s => if skips then [] else s.domain.faults field value

def comparisonFaults (c : Comparison) : List Error :=
  (if Operator.isKnown c.operator || cfg.plugins.handles c.operator then [] else [.unknownOperator c.operator])
    ++ (if c.firstOperand = "" then [.missingValue c.selector] else [])
    ++ (if cfg.lax then []
      else cfg.fieldFaults ((cfg.plugins.find? c.operator).any (·.skipsDomain)) c.selector c.firstOperand)

mutual

/-- All that is wrong with a filter, negated filters apart. -/
def faults : Filter → List Error
  | .comparison c => cfg.comparisonFaults c
  | .group .not os => Operand.negationFaults os
  | .group k os => (if os.isEmpty then [.missingOperands k.name] else []) ++ operandFaults os

def operandFaults : List Operand → List Error
  | [] => []
  | .filter f :: os => faults f ++ operandFaults os
  | .stray s :: os => .invalidOperand (Operand.stray s).text :: operandFaults os

end

end Config

namespace Selector

lemma accepts_of_bare {s : Selector} (h : s.isRecord = false) (value : String) : s.accepts value = true := by
  cases s with
  | bare sql => rfl
  | record c => nomatch h

/-- What a selector says of a value that it does not accept. It has words for a column without a type too, but
such a column accepts everything. -/
lemma refusal_eq_first (s : Selector) (field value : String) :
    (if s.accepts value then .ok () else .error (s.refusal field value)) =
      Error.first (s.domain.faults field value) := by
  unfold accepts refusal
  cases s.domain with
  | any => rfl
  | type t =>
    simp only [Domain.accepts, Domain.faults]
    by_cases h : t.accepts value = true
    · simp [h, Error.first]
    · simp [h, Error.first]
  | oneOf allowed =>
    simp only [Domain.accepts, Domain.faults, List.contains_iff_mem]
    by_cases h : value ∈ allowed
    · simp [h, Error.first]
    · simp [h, Error.first]

end Selector

namespace Config
variable {cfg : Config}

lemma checkValue_eq_first (skips : Bool) (field value : String) :
    cfg.checkValue skips field value = Error.first (cfg.fieldFaults skips field value) := by
  unfold checkValue fieldFaults
  cases cfg.selectors.get? field with
  | none => rfl
  | some s =>
    cases skips with
    | true => simp [Error.first]
    | false =>
      cases hr : s.isRecord with
      | false => simp [← s.refusal_eq_first, s.accepts_of_bare hr]
      | true => simp [← s.refusal_eq_first, hr]

theorem checkComparison_eq_first (c : Comparison) :
    cfg.checkComparison c = Error.first (cfg.comparisonFaults c) := by
  have hk : (!Operator.isKnown c.operator && (cfg.plugins.find? c.operator).isNone) =
      !(Operator.isKnown c.operator || cfg.plugins.handles c.operator) := by
    simp [Registry.handles, ← Option.not_isSome]
  simp only [checkComparison, comparisonFaults, hk, Error.first_append]
  cases Operator.isKnown c.operator || cfg.plugins.handles c.operator with
  | false => rfl
  | true =>
    by_cases hv : c.firstOperand = ""
    · simp [hv, Error.first, bind, Except.bind]
    · cases cfg.lax with
      | true => simp [hv, Error.first, bind, Except.bind]
      | false => simp [hv, checkValue_eq_first, Error.first, bind, Except.bind]

lemma only?_eq_first (os : List Operand) :
    (Operand.only? os >>= fun _ => .ok ()) = Error.first (Operand.negationFaults os) := by
  match os with
  | [] | [.filter _] | [.stray _] | _ :: _ :: _ => rfl

lemma validateAll_eq_first {os : List Operand}
    (h : ∀ f, .filter f ∈ os → cfg.validate f = Error.first (cfg.faults f)) :
    cfg.validateAll os = Error.first (cfg.operandFaults os) := by
  induction os with
  | nil => rfl
  | cons o os ih =>
    have ih := ih fun f hf => h f (.tail _ hf)
    cases o with
    | stray s => rfl
    | filter f => rw [validateAll, operandFaults, Error.first_append, h f (.head _), ih]

/-- By induction on the filter: what the operands before the first faulty one contribute to the list of faults is
empty. -/
theorem validate_eq_first (f : Filter) : cfg.validate f = Error.first (cfg.faults f) := by
  induction f using Filter.induction with
  | comparison c => exact checkComparison_eq_first c
  | group k os ih =>
    cases k with
    | not => exact only?_eq_first os
    | and | or =>
      cases os with
      | nil => rfl
      | cons o os => exact validateAll_eq_first ih

end Config

/-! ### Faults of values -/

/-- The error is about a value, not about how the filter is made or what it names. -/
def Error.isOfValue : Error → Bool
  | notInEnum .. | invalidValue .. => true
  | _ => false

lemma Error.notMem_of_isOfValue {d e : Error} (he : e.isOfValue = true) (hd : d.isOfValue = false) :
    e ∉ [d] := by
  intro h
  rw [List.mem_singleton.mp h, hd] at he
  nomatch he

lemma Domain.mem_faults {d : Domain} {field value : String} {e : Error} (h : e ∈ d.faults field value) :
    d.accepts value = false ∧
      ((∃ allowed, d = .oneOf allowed ∧ e = .notInEnum field value (Json.ofStrings allowed).text) ∨
        ∃ t, d = .type t ∧ e = .invalidValue field value t.name) := by
  cases d with
  | any => nomatch h
  | type t =>
    rw [faults] at h
    split at h
    · nomatch h
    · rename_i ha
      exact ⟨Bool.eq_false_iff.mpr ha, .inr ⟨t, rfl, List.mem_singleton.mp h⟩⟩
  | oneOf allowed =>
    rw [faults] at h
    split at h
    · nomatch h
    · rename_i ha
      exact ⟨by simpa [accepts] using ha, .inl ⟨allowed, rfl, List.mem_singleton.mp h⟩⟩

/-- Some comparison in the filter has this value, which is not in the domain of its field. -/
def Filter.HasMisfit (cfg : Config) (f : Filter) (field value : String) (d : Domain) : Prop :=
  ∃ c s, Within (.comparison c) f ∧ c.selector = field ∧ c.firstOperand = value ∧
    cfg.selectors.get? field = some s ∧ s.domain = d ∧ d.accepts value = false

namespace Config
variable {cfg : Config} {e : Error}

lemma exists_of_mem_comparisonFaults {c : Comparison} (h : e ∈ cfg.comparisonFaults c)
    (he : e.isOfValue = true) :
    ∃ s, cfg.selectors.get? c.selector = some s ∧ e ∈ s.domain.faults c.selector c.firstOperand := by
  simp only [comparisonFaults, fieldFaults, List.mem_append, or_assoc] at h
  rcases h with h | h | h
  · split at h
    · nomatch h
    · exact absurd h (Error.notMem_of_isOfValue he rfl)
  · split at h
    · exact absurd h (Error.notMem_of_isOfValue he rfl)
    · nomatch h
  · split at h
    · nomatch h
    · split at h
      · exact absurd h (Error.notMem_of_isOfValue he rfl)
      · rename_i s hs
        split at h
        · nomatch h
        · exact ⟨s, hs, h⟩

lemma exists_of_mem_operandFaults {os : List Operand} (h : e ∈ cfg.operandFaults os)
    (he : e.isOfValue = true) : ∃ f, .filter f ∈ os ∧ e ∈ cfg.faults f := by
  induction os with
  | nil => nomatch h
  | cons o os ih =>
    cases o with
    | stray s =>
      rcases List.mem_cons.mp h with rfl | h
      · nomatch he
      · exact (ih h).imp fun f => .imp_left (.tail _)
    | filter f =>
      rcases List.mem_append.mp h with h | h
      · exact ⟨f, .head _, h⟩
      · exact (ih h).imp fun f => .imp_left (.tail _)

/-- A fault of a value is that of some comparison. -/
lemma exists_of_mem_faults {f : Filter} (h : e ∈ cfg.faults f) (he : e.isOfValue = true) :
    ∃ c s, Filter.Within (.comparison c) f ∧ cfg.selectors.get? c.selector = some s ∧
      e ∈ s.domain.faults c.selector c.firstOperand := by
  induction f using Filter.induction with
  | comparison c =>
    obtain ⟨s, hs, hd⟩ := exists_of_mem_comparisonFaults h he
    exact ⟨c, s, .whole _, hs, hd⟩
  | group k os ih =>
    cases k with
    | not =>
      match os with
      | [.filter _] => nomatch h
      | [] | [.stray _] | _ :: _ :: _ => exact absurd h (Error.notMem_of_isOfValue he rfl)
    | and | or =>
      rcases List.mem_append.mp h with h | h
      · cases os with
        | nil => exact absurd h (Error.notMem_of_isOfValue he rfl)
        | cons o os => nomatch h
      · obtain ⟨f, hf, h⟩ := exists_of_mem_operandFaults h he
        obtain ⟨c, s, mem, hs⟩ := ih f hf h
        exact ⟨c, s, .operand hf mem, hs⟩

lemma mem_faults_of_validate {f : Filter} (h : cfg.validate f = .error e) : e ∈ cfg.faults f := by
  rw [validate_eq_first] at h
  exact Error.mem_of_first h

/-- Validation reports the first fault in reading order, and none if there is none. A value is refused either
by an enumerated column, with the values that it allows, or by a column with a declared type, with its name;
the word for a column without a type is never used. -/
theorem validate_first_fault (cfg : Config) (f : Filter) :
    cfg.validate f = Error.first (cfg.faults f) ∧
      (∀ field value text, cfg.validate f = .error (.notInEnum field value text) →
        ∃ allowed, f.HasMisfit cfg field value (.oneOf allowed) ∧ text = (Json.ofStrings allowed).text) ∧
      ∀ field value name, cfg.validate f = .error (.invalidValue field value name) →
        ∃ t, f.HasMisfit cfg field value (.type t) ∧ name = t.name ∧ name ≠ "type" := by
  refine ⟨validate_eq_first f, fun field value text h => ?_, fun field value name h => ?_⟩
  · obtain ⟨c, s, mem, hs, hm⟩ := exists_of_mem_faults (mem_faults_of_validate h) rfl
    obtain ⟨ha, ⟨allowed, hd, he⟩ | ⟨t, -, he⟩⟩ := Domain.mem_faults hm
    · cases he
      exact ⟨allowed, ⟨c, s, mem, rfl, rfl, hs, hd, hd ▸ ha⟩, rfl⟩
    · nomatch he
  · obtain ⟨c, s, mem, hs, hm⟩ := exists_of_mem_faults (mem_faults_of_validate h) rfl
    obtain ⟨ha, ⟨allowed, -, he⟩ | ⟨t, hd, he⟩⟩ := Domain.mem_faults hm
    · nomatch he
    · cases he
      exact ⟨t, ⟨c, s, mem, rfl, rfl, hs, hd, hd ▸ ha⟩, rfl, by cases t <;> decide⟩

/-- Behind a negation, which hides a field that is not there, two values are refused, and the first of them is
reported. A negation of two operands is blamed on the second, be it a text or a filter. -/
theorem validate_first_fault_users :
    let hidden : Filter := .not (.comparison ⟨"bogus", "==", ["1"]⟩)
    let tier : Filter := .comparison ⟨"tier", "==", ["IRON"]⟩
    let points : Filter := .comparison ⟨"points", "=gt=", ["many"]⟩
    let f : Filter := .and [hidden, .or [tier, points]]
    let g : Filter := .or [hidden, points, tier]
    let h : Filter := .or [hidden, .group .not [.filter tier, .stray "x"], points]
    let k : Filter := .or [hidden, .group .not [.stray "x", .filter tier], .group .and []]
    (users.validate f = .error (.notInEnum "tier" "IRON" "[\"GOLD\",\"TIN\"]") ∧
        ∃ allowed, f.HasMisfit users "tier" "IRON" (.oneOf allowed)) ∧
      (users.validate g = .error (.invalidValue "points" "many" "integer") ∧
        ∃ t, g.HasMisfit users "points" "many" (.type t)) ∧
      users.validate h = .error (.invalidOperand "\"x\"") ∧
      users.validate k = .error (.invalidOperand
        "\x7b\"selector\":\"tier\",\"operator\":\"==\",\"operands\":[\"IRON\"]\x7d") := by
  intro hidden tier points f g h k
  have hallowed : (Json.ofStrings ["GOLD", "TIN"]).text = "[\"GOLD\",\"TIN\"]" := by decide +kernel
  have hf : users.validate f = .error (.notInEnum "tier" "IRON" "[\"GOLD\",\"TIN\"]") := by
    rw [← hallowed]
    rfl
  have hg : users.validate g = .error (.invalidValue "points" "many" "integer") := rfl
  have hx : (Operand.stray "x").text = "\"x\"" := by decide +kernel
  have ht : (Operand.filter tier).text =
      "\x7b\"selector\":\"tier\",\"operator\":\"==\",\"operands\":[\"IRON\"]\x7d" := by
    decide +kernel
  obtain ⟨-, he, -⟩ := validate_first_fault users f
  obtain ⟨-, -, hv⟩ := validate_first_fault users g
  refine ⟨⟨hf, (he _ _ _ hf).imp fun _ => And.left⟩, ⟨hg, (hv _ _ _ hg).imp fun _ => And.left⟩, ?_, ?_⟩
  · rw [← hx]
    exact (validate_first_fault users h).1
  · rw [← ht]
    exact (validate_first_fault users k).1

end Config
end Listing
