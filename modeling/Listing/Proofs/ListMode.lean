import Listing.Proofs.BuiltIn

/-! What a comparison binds for all of its operands, against what it binds for one. Of every domain but two, a list
of operands makes the list of what the operands make one by one. An enumerated domain keeps those of its operands
that it allows, and a domain of truth values has no lists: there the first operand stands for all. -/
namespace Listing

/-- The elements of a list, each as a value of its own. -/
def Value.elements? : Value → Option (List Value)
  | numbers ns => some (ns.map number)
  | texts ss => some (ss.map text)
  | _ => none

namespace Domain

lemma isList_list_iff {d : Domain} {ss : List String} : (d.list ss).isList = true ↔ d ≠ .type .boolean := by
  cases d with
  | any => simp [list, Value.isList]
  | type t => cases t <;> simp [list, SelectorType.list, SelectorType.single, Value.isList]
  | oneOf allowed => simp [list, Value.isList]

lemma elements?_list {d : Domain} (ho : ∀ allowed, d ≠ .oneOf allowed) (hb : d ≠ .type .boolean)
    (ss : List String) : (d.list ss).elements? = some (ss.map d.single) := by
  cases d with
  | any => rfl
  | oneOf allowed => exact absurd rfl (ho allowed)
  | type t =>
    cases t with
    | boolean => exact absurd rfl hb
    | string | date | dateTime => rfl
    | number | integer =>
      change some ((ss.map Number.parse).map Value.number) = _
      rw [List.map_map]
      rfl

end Domain

namespace Selectors

/-- Comparisons on truth values apart, the value for all operands is a list. On an enumerated column it has the
operands that are allowed, in order and as often as they were given, and elsewhere an element for each operand,
which is the value of the comparison with this operand alone. On truth values it is that of the first operand. -/
theorem coerce_operands (ss : Selectors) (c : Comparison) :
    ((ss.coerce c true).isList = true ↔ ss.domainOf c.selector ≠ .type .boolean) ∧
      (∀ allowed, ss.domainOf c.selector = .oneOf allowed →
        ss.coerce c true = .texts (c.operands.filter (· ∈ allowed))) ∧
      ((∀ allowed, ss.domainOf c.selector ≠ .oneOf allowed) → ss.domainOf c.selector ≠ .type .boolean →
        (ss.coerce c true).elements? =
          some (c.operands.map fun o => ss.coerce { c with operands := [o] } false)) ∧
      (ss.domainOf c.selector = .type .boolean → ss.coerce c true = ss.coerce c false) := by
  refine ⟨Domain.isList_list_iff, fun allowed h => ?_, fun ho hb => ?_, fun h => ?_⟩
  · have hc : allowed.contains = (· ∈ allowed) := by
      funext o
      simp
    simp [coerce, h, Domain.list, hc]
  · exact Domain.elements?_list ho hb c.operands
  · simp [coerce, h, Domain.list, Domain.single, SelectorType.list, Comparison.firstOperand]

/-- Texts that are not allowed are left out, one that is allowed is kept twice, and what is no number is one
element of its list too. -/
theorem coerce_operands_users :
    let ss := Config.users.selectors
    let tier : Comparison := ⟨"tier", "=in=", ["TIN", "IRON", "GOLD", "TIN"]⟩
    let points : Comparison := ⟨"points", "=out=", ["1", "many", "0x10"]⟩
    ss.coerce tier true = .texts ["TIN", "GOLD", "TIN"] ∧ (ss.coerce points true).elements? =
      some (["1", "many", "0x10"].map fun o => .number (Number.parse o)) := by
  intro ss tier points
  obtain ⟨-, hm, -, -⟩ := coerce_operands ss tier
  obtain ⟨-, -, he, -⟩ := coerce_operands ss points
  exact ⟨hm ["GOLD", "TIN"] rfl, he nofun nofun⟩

/-- Of two truth values only the first is bound, and bound as no list, in a condition that is about a list. -/
theorem coerce_binds_no_list :
    let ss : Selectors := .ofList [("active", .record { sql := some "u.active", domain := .type .boolean })]
    let c : Comparison := ⟨"active", "=in=", ["true", "false"]⟩
    let cfg : Config := { selectors := ss }
    ss.coerce c true = .bool true ∧ (ss.coerce c true).isList = false ∧
      cfg.predicate (some (.comparison c)) ⟨[]⟩ = .ok "u.active IN $1" ⟨[.bool true]⟩ := by
  intro ss c cfg
  have h : ss.coerce c true = .bool true := by decide
  refine ⟨h, by rw [h]; rfl, ?_⟩
  dsimp only [cfg, ss, c]
  rfl

end Selectors
end Listing
