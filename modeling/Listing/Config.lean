import Listing.Plugin.Registry

/-! What stays the same for all requests to a listing. -/
namespace Listing

/-- How a fragment is joined to the base query. -/
inductive Strategy where
  /-- The base query has no conditions of its own. -/
  | where_
  | and
  deriving DecidableEq, Repr

def Strategy.keyword : Strategy → Keyword
  | where_ => .where_
  | and => .and

structure Config where
  base : String := ""
  strategy : Strategy := .where_
  selectors : Selectors := ∅
  /-- Fields without a selector are SQL, and operands are not looked at. -/
  lax : Bool := false
  format : Format := {}
  /-- What stands between the base query and its first condition, if it is not a blank. -/
  separator? : Option String := none
  plugins : Registry := ∅

namespace Config

instance : Inhabited Config := ⟨{}⟩

def separator (cfg : Config) : String := cfg.separator?.getD " "

def resolve (cfg : Config) (field : String) : String := cfg.selectors.resolve field

def withSelector (cfg : Config) (field : String) (s : Selector) : Config :=
  { cfg with selectors := cfg.selectors.insert field s }

end Config
end Listing
