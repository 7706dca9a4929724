import Listing.Selector
import Listing.Json

/-! Selectors as JSON: a string for a bare one, an object for a record. A list of allowed values takes the
place of a type; one that is no list of strings is passed over. -/
namespace Listing

namespace SelectorType

def ofName? : String → Option SelectorType
  | "string" => some string
  | "number" => some number
  | "integer" => some integer
  | "date" => some date
  | "date-time" => some dateTime
  | "boolean" => some boolean
  | _ => none

def ofJson? (j : Json) : Option SelectorType := j.asName?.bind ofName?

end SelectorType

namespace Domain

def members : Domain → List (String × Json)
  | any => []
  | type t => [("type", .string t.name)]
  | oneOf allowed => [("enum", .ofStrings allowed)]

def ofMembers? (ms : List (String × Json)) : Option Domain :=
  match (ms.lookup "enum").bind Json.asStrings? with
  | some allowed => some (oneOf allowed)
  | none => (Json.memberOr ms "type" none (Json.nullable SelectorType.ofJson?)).map fun
    | some t => type t
    | none => any

end Domain

namespace Column

def toJson (c : Column) : Json :=
  .object ((c.sql.map fun s => ("sql", .string s)).toList
    ++ (c.rowName.map fun s => ("alias", .string s)).toList
    ++ c.domain.members
    ++ (c.sortable.map fun b => ("sortable", .bool b)).toList)

def ofMembers? (ms : List (String × Json)) : Option Column := do
  let sql ← Json.memberOr ms "sql" none (Json.nullable Json.asString?)
  let rowName ← Json.memberOr ms "alias" none (Json.nullable Json.asString?)
  let sortable ← Json.memberOr ms "sortable" none (Json.nullable Json.asBool?)
  return { sql, rowName, domain := ← Domain.ofMembers? ms, sortable }

end Column

namespace Selector

def toJson : Selector → Json
  | bare sql => .string sql
  | record c => c.toJson

def ofJson? : Json → Option Selector
  | .string sql => some (bare sql)
  | .object ms => (Column.ofMembers? ms).map record
  | _ => none

end Selector

namespace Selectors

def toJson (ss : Selectors) : Json := .object (ss.entries.map fun e => (e.1, e.2.toJson))

def ofJson? (j : Json) : Option Selectors := do
  let es ← (← j.asObject?).mapM fun m => (Selector.ofJson? m.2).map (m.1, ·)
  return .ofList es

end Selectors
end Listing
