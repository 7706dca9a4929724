/-! What can be wrong with a request, a configuration or a row, and how it is told. -/
namespace Listing

inductive Error where
  /-- A selector that the settings do not have. -/
  | unknownSelector (name : String)
  | unknownOperator (token : String)
  /-- A comparison whose first operand is absent or empty. -/
  | missingValue (selector : String)
  /-- `allowed` is the JSON text of the allowed values. -/
  | notInEnum (selector value allowed : String)
  | invalidValue (selector value expected : String)
  | invalidSort (field : String)
  | missingOperands (connective : String)
  /-- `operand` is the JSON text of what stands where a filter is needed. -/
  | invalidOperand (operand : String)
  | invalidCursor (reason : String)
  | invalidPluginOperator (token : String)
  | duplicatePlugin (token : String)
  | pluginInvariant (operator message : String)
  | missingRowProperty (name : String)
  | unsupportedFilter (shape : String)
  deriving DecidableEq, Repr

namespace Error

def message : Error → String
  | unknownSelector name => "unknown selector: \"" ++ name ++ "\""
  | unknownOperator token => "unknown operator: \"" ++ token ++ "\""
  | missingValue selector => "missing value for selector: \"" ++ selector ++ "\""
  | notInEnum selector value allowed =>
    "bad selector value for \"" ++ selector ++ "\": \"" ++ value ++ "\" must be one of " ++ allowed
  | invalidValue selector value expected =>
    "bad selector value for \"" ++ selector ++ "\": \"" ++ value ++ "\" is not a " ++ expected
  | invalidSort field => "invalid sort: " ++ field
  | missingOperands connective => "missing operands: " ++ connective
  | invalidOperand operand => "invalid operand type: " ++ operand
  | invalidCursor reason => "invalid keyset: " ++ reason
  | invalidPluginOperator token =>
    "invalid custom RSQL operator, must start and end with '=', but was: '" ++ token ++ "'"
  | duplicatePlugin token => "duplicate plugin for operator '" ++ token ++ "'"
  | pluginInvariant operator message => "plugin invariant failed for '" ++ operator ++ "': " ++ message
  | missingRowProperty name => "row is missing property '" ++ name ++ "'"
  | unsupportedFilter shape => "unsupported AST node: " ++ shape

/-- The parts of the program, or a row and the query it came from, disagree. -/
def isFatal : Error → Bool
  | pluginInvariant .. | missingRowProperty _ | unsupportedFilter _ => true
  | _ => false

/-- The filter, sort list or cursor of the request is at fault. -/
def isClientError : Error → Bool
  | unknownSelector _ | unknownOperator _ | missingValue _ | notInEnum .. | invalidValue ..
  | invalidSort _ | missingOperands _ | invalidOperand _ | invalidCursor _ => true
  | _ => false

theorem not_isFatal_of_isClientError {e : Error} (h : e.isClientError = true) : e.isFatal = false := by
  cases e <;> simp_all [isClientError, isFatal]

end Error
end Listing
