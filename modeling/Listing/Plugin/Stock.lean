import Listing.Plugin

/-! The plugins that come with the library: lists bound as arrays, and tests for null and empty columns. -/
namespace Listing.Plugin

inductive Stock where
  /-- Membership in an array. -/
  | anyOf
  /-- Difference from all elements of an array. -/
  | noneOf
  | isNull
  | isEmpty
  | isNullOrEmpty
  deriving DecidableEq, Repr

/-- A comparison of a column with all elements of the bound list. -/
def arrayTest (symbol : String) (k : Keyword) (c : Call) : StateM Params String := do
  let place ← Params.place (c.coerce true)
  return c.column ++ " " ++ symbol ++ " " ++ c.format.keyword k ++ "(" ++ place.text ++ ")"

def nullTest (negated : Bool) (c : Call) : String :=
  let is := c.column ++ " " ++ c.format.keyword .is
  (if negated then is ++ " " ++ c.format.keyword .not else is) ++ " null"

def emptyTest (negated : Bool) (c : Call) : String := c.column ++ (if negated then " <> ''" else " = ''")

def nullOrEmptyTest (negated : Bool) (c : Call) : String :=
  let test := "(" ++ nullTest false c ++ " " ++ c.format.keyword .or ++ " " ++ emptyTest false c ++ ")"
  if negated then c.format.keyword .not ++ " " ++ test else test

/-- A test that binds nothing, and that its operand may turn around. -/
def flag (token : String) (negates : String → Bool) (test : Bool → Call → String) : Plugin where
  token := token
  skipsDomain := true
  check := flagCheck
  render c := pure (test (negates c.comparison.firstOperand) c)

namespace Stock

def token : Stock → String
  | anyOf => "=in="
  | noneOf => "=out="
  | isNull => "=null="
  | isEmpty => "=empty="
  | isNullOrEmpty => "=nullorempty="

def plugin : Stock → Plugin
  | anyOf => { token := anyOf.token, render := arrayTest "=" .any }
  | noneOf => { token := noneOf.token, render := arrayTest "<>" .all }
  | isNull => flag isNull.token (· == "false") nullTest
  | isEmpty => flag isEmpty.token (· != "true") emptyTest
  | isNullOrEmpty => flag isNullOrEmpty.token (· == "false") nullOrEmptyTest

@[simp] theorem token_plugin (s : Stock) : s.plugin.token = s.token := by cases s <;> rfl

end Stock
end Listing.Plugin
