import Listing.Value

/-! Bound values as JSON: plain values without a mark of their kind. -/
namespace Listing

namespace Number

def toJson : Number → Json
  | int n => .integer n.toInt
  | float x => if x.isFinite then .float x else .null

def ofJson? : Json → Option Number
  | .integer n => some (ofInt n)
  | .float x => some (float x)
  | _ => none

end Number

namespace Value

def toJson : Value → Json
  | bool b => .bool b
  | number n => n.toJson
  | text s => .string s
  | numbers ns => .array (ns.map Number.toJson)
  | texts ss => .ofStrings ss

/-- A list without elements is one of numbers. -/
def ofJson? : Json → Option Value
  | .bool b => some (bool b)
  | .string s => some (text s)
  | .array items =>
    match items.mapM Number.ofJson? with
    | some ns => some (numbers ns)
    | none => (items.mapM Json.asString?).map texts
  | j => (Number.ofJson? j).map number

end Value

namespace Params

def toJson (p : Params) : Json := .array (p.values.map Value.toJson)

def ofJson? (j : Json) : Option Params := (j.asArray?.bind (·.mapM Value.ofJson?)).map Params.mk

end Params
end Listing
