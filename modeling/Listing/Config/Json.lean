import Listing.Config
import Listing.Selector.Json

/-! Configurations as JSON. Plugins are code and have no JSON. -/
namespace Listing

namespace Strategy

def name : Strategy → String
  | where_ => "where"
  | and => "and"

def ofName? : String → Option Strategy
  | "where" => some where_
  | "and" => some and
  | _ => none

def ofJson? (j : Json) : Option Strategy := j.asName?.bind ofName?

end Strategy

namespace Config

def toJson (cfg : Config) : Json :=
  .object ([("mainQuery", .string cfg.base), ("concatStrategy", .string cfg.strategy.name),
      ("selectors", cfg.selectors.toJson), ("lax", .bool cfg.lax),
      ("keywordsLowerCase", .bool cfg.format.lowerCase), ("detachedOperators", .bool cfg.format.detached)]
    ++ (cfg.separator?.map fun s => ("wherePrefix", .string s)).toList)

/-- Only the base query has to be there. -/
def ofJson? (j : Json) : Option Config := do
  let ms ← j.asObject?
  let base ← (ms.lookup "mainQuery").bind Json.asString?
  let strategy ← Json.memberOr ms "concatStrategy" .where_ Strategy.ofJson?
  let selectors ← Json.memberOr ms "selectors" ∅ Selectors.ofJson?
  let lax ← Json.memberOr ms "lax" false Json.asBool?
  let lowerCase ← Json.memberOr ms "keywordsLowerCase" false Json.asBool?
  let detached ← Json.memberOr ms "detachedOperators" false Json.asBool?
  let separator? ← Json.memberOr ms "wherePrefix" none (Json.nullable Json.asString?)
  return { base, strategy, selectors, lax, format := { lowerCase, detached }, separator? }

end Config
end Listing
