import Listing.Format

/-! The comparison operators that need no plugin. -/
namespace Listing

inductive Operator where
  | eq | ne | lt | le | gt | ge | in_ | out
  deriving DecidableEq, Repr

namespace Operator

/-- Symbols and names mean the same; both are matched exactly. -/
def parse? (token : String) : Option Operator :=
  if token = "==" then some eq
  else if token = "!=" then some ne
  else if token = "<" || token = "=lt=" then some lt
  else if token = "<=" || token = "=le=" then some le
  else if token = ">" || token = "=gt=" then some gt
  else if token = ">=" || token = "=ge=" then some ge
  else if token = "=in=" then some in_
  else if token = "=out=" then some out
  else none

def isKnown (token : String) : Bool := (parse? token).isSome

def token : Operator → String
  | eq => "=="
  | ne => "!="
  | lt => "<"
  | le => "<="
  | gt => ">"
  | ge => ">="
  | in_ => "=in="
  | out => "=out="

theorem parse?_token (o : Operator) : parse? o.token = some o := by cases o <;> decide

/-- The operand is a list. -/
def isList : Operator → Bool
  | in_ | out => true
  | _ => false

def isOrdering : Operator → Bool
  | lt | le | gt | ge => true
  | _ => false

def sql (f : Format) : Operator → String
  | eq => f.keyword .like
  | ne => f.symbol "<>"
  | lt => f.symbol "<"
  | le => f.symbol "<="
  | gt => f.symbol ">"
  | ge => f.symbol ">="
  | in_ => f.keyword .in_
  | out => f.keyword .notIn

end Operator
end Listing
