import Listing.Json
import Listing.Sort

/-! Sort keys as JSON. By name, each part has two names, of which one may be given; by place, the
direction may be left out. -/
namespace Listing

namespace Direction

def ofName? : String → Option Direction
  | "asc" => some asc
  | "desc" => some desc
  | _ => none

def ofJson? (j : Json) : Option Direction := j.asName?.bind ofName?

end Direction

namespace SortKey

def toJson (k : SortKey) : Json :=
  .object [("operand", .string k.field), ("operator", .string k.direction.name)]

/-- A member under one of its two names; there must not be both. -/
def memberOf (ms : List (String × Json)) (name other : String) : Option (Option Json) :=
  match ms.lookup name, ms.lookup other with
  | some _, some _ => none
  | some j, none => some (some j)
  | none, j => some j

def ofJson? : Json → Option SortKey
  | .object ms => do
    let field ← memberOf ms "operand" "field"
    let direction ← memberOf ms "operator" "dir"
    return ⟨← field.bind Json.asString?, ← direction.elim (some .asc) Direction.ofJson?⟩
  | .array [.string field] => some ⟨field, .asc⟩
  | .array [.string field, direction] => (Direction.ofJson? direction).map (⟨field, ·⟩)
  | _ => none

def listToJson (ks : List SortKey) : Json := .array (ks.map toJson)

def listOfJson? (j : Json) : Option (List SortKey) := j.asArray?.bind (·.mapM ofJson?)

end SortKey
end Listing
