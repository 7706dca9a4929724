import Listing.Filter
import Listing.Json

/-! Filters as JSON. Both parts of a filter may be given by name, as the members of an object, or by
place, as the items of a list; a comparison is recognised before a group. -/
namespace Listing

namespace Connective

def ofName? : String → Option Connective
  | "and" => some .and
  | "or" => some .or
  | "not" => some .not
  | _ => none

def ofJson? (j : Json) : Option Connective := j.asName?.bind ofName?

end Connective

namespace Comparison

def toJson (c : Comparison) : Json :=
  .object [("selector", .string c.selector), ("operator", .string c.operator),
    ("operands", .ofStrings c.operands)]

def ofJson? : Json → Option Comparison
  | .object ms => do
    let selector ← (ms.lookup "selector").bind Json.asString?
    let operator ← (ms.lookup "operator").bind Json.asString?
    let operands ← Json.memberOr ms "operands" [] Json.asStrings?
    return ⟨selector, operator, operands⟩
  | .array [.string selector, .string operator] => some ⟨selector, operator, []⟩
  | .array [.string selector, .string operator, operands] =>
    operands.asStrings?.map (⟨selector, operator, ·⟩)
  | _ => none

end Comparison

mutual

def Filter.toJson : Filter → Json
  | .comparison c => c.toJson
  | .group k os => .object [("operator", .string k.name), ("operands", .array (Operand.listToJson os))]

def Operand.listToJson : List Operand → List Json
  | [] => []
  | o :: os => o.toJson :: Operand.listToJson os

def Operand.toJson : Operand → Json
  | .filter f => f.toJson
  | .stray s => .string s

end

mutual

def Filter.ofJson? : Json → Option Filter
  | .object ms =>
    match Comparison.ofJson? (.object ms) with
    | some c => some (.comparison c)
    | none => do
      let k ← (ms.lookup "operator").bind Connective.ofJson?
      return .group k (← Operand.ofMembers? ms)
  | .array items =>
    match Comparison.ofJson? (.array items) with
    | some c => some (.comparison c)
    | none => Filter.ofItems? items
  | _ => none

/-- A group by place: its connective, and its operands if there are any. -/
def Filter.ofItems? : List Json → Option Filter
  | [k] => (Connective.ofJson? k).map (.group · [])
  | [k, .array items] => do return .group (← Connective.ofJson? k) (← Operand.ofItems? items)
  | _ => none

/-- The operands among the members of a group; a group may do without. -/
def Operand.ofMembers? : List (String × Json) → Option (List Operand)
  | [] => some []
  | (key, .array items) :: ms => if key = "operands" then Operand.ofItems? items else Operand.ofMembers? ms
  | (key, _) :: ms => if key = "operands" then none else Operand.ofMembers? ms

def Operand.ofItems? : List Json → Option (List Operand)
  | [] => some []
  | .string s :: js => (Operand.ofItems? js).map (.stray s :: ·)
  | j :: js => do return .filter (← Filter.ofJson? j) :: (← Operand.ofItems? js)

end

end Listing
