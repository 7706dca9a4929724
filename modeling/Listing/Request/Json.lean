import Listing.Filter.Json
import Listing.Request
import Listing.Sort.Json

/-! Requests as JSON, by name or by place. All parts may be left out, and a filter or cursor may be null. -/
namespace Listing.Request

def toJson (r : Request) : Json :=
  .object [("filter", r.filter.elim .null Filter.toJson), ("sort", SortKey.listToJson r.sort),
    ("keyset", r.cursor.elim .null .string)]

def filterOfJson? : Json → Option (Option Filter) := Json.nullable Filter.ofJson?

def cursorOfJson? : Json → Option (Option String) := Json.nullable Json.asString?

def ofMembers? (ms : List (String × Json)) : Option Request := do
  let filter ← Json.memberOr ms "filter" none filterOfJson?
  let sort ← Json.memberOr ms "sort" [] SortKey.listOfJson?
  let cursor ← Json.memberOr ms "keyset" none cursorOfJson?
  return { filter, sort, cursor }

def ofJson? : Json → Option Request
  | .object ms => ofMembers? ms
  | .array items =>
    if items.length ≤ 3 then ofMembers? (["filter", "sort", "keyset"].zip items) else none
  | _ => none

end Listing.Request
