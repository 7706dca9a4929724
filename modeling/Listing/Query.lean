import Listing.OrderBy
import Listing.Predicate
import Listing.Request

/-! The whole query of a request: the base query, and behind it the fragment that the request adds. -/
namespace Listing
namespace Config

/-- Predicate, seek and sort list in one text; parts that are empty leave no trace. -/
def combine (cfg : Config) (predicate : String) (order : OrderBy) : String :=
  if order.isEmpty then predicate
  else
    let conditions :=
      if !predicate.isEmpty && !order.seek.isEmpty then
        "(" ++ predicate ++ ") " ++ cfg.format.keyword .and ++ " " ++ order.seek
      else predicate ++ order.seek
    Text.trim (conditions
      ++ if order.list.isEmpty then "" else " " ++ cfg.format.keyword .orderBy ++ " " ++ order.list)

/-- What a request adds to the base query. The values of its filter come before those of its cursor. -/
def fragment (cfg : Config) (r : Request) : Binding String := Binding.restoring do
  let predicate ← cfg.predicate r.filter
  let order ← cfg.orderBy r.sort r.cursor
  return cfg.combine predicate order

def startsWithOrderBy (fragment : String) : Bool :=
  (fragment.toList.take 8).map Char.toLower == Keyword.orderBy.lower.toList

/-- A fragment that only orders needs no keyword in front. -/
def join (cfg : Config) (fragment : String) : String :=
  if fragment.isEmpty then cfg.base
  else if startsWithOrderBy fragment then cfg.base ++ " " ++ fragment
  else
    let start := match cfg.strategy with
      | .where_ => cfg.separator
      | .and => " "
    cfg.base ++ start ++ cfg.format.keyword cfg.strategy.keyword ++ " " ++ fragment

def query (cfg : Config) (r : Request) : Binding String := return cfg.join (← cfg.fragment r)

end Config
end Listing
