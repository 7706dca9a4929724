import Listing.Coercion
import Listing.Format

/-! Plugins: operators that write their own SQL, in place of a built-in operator or beside them. -/
namespace Listing

/-- What a plugin may use to write one comparison. -/
structure Plugin.Call where
  /-- The SQL expression of the comparison's field. -/
  column : String
  comparison : Comparison
  selectors : Selectors
  format : Format

structure Plugin where
  token : String
  /-- The operands are no values of the column, so its domain does not matter. -/
  skipsDomain : Bool := false
  /-- Refuses a comparison, with the reason, before it is written. -/
  check : Comparison → Except String Unit := fun _ => .ok ()
  render : Plugin.Call → StateM Params String

namespace Plugin

/-- Tokens match without regard to the case of ASCII letters. -/
def handles (p : Plugin) (token : String) : Bool := Text.sameIgnoringCase p.token token

def Call.coerce (c : Call) (asList : Bool) : Value := c.selectors.coerce c.comparison asList

/-- A comparison whose only operand says yes or no. -/
def flagCheck (c : Comparison) : Except String Unit :=
  let condition := "operator value must be 'true' or 'false'"
  let value := c.firstOperand
  if value = "true" || value = "false" then .ok ()
  else if value = "" then .error ("operator must have one value, " ++ condition)
  else .error (condition ++ ", but was: '" ++ value ++ "'")

/-- A comparison with two operands. -/
def pairCheck (message : String) (c : Comparison) : Except String Unit :=
  if c.operands.length = 2 then .ok () else .error message

end Plugin
end Listing
