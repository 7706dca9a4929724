import Listing.Config
import Listing.Filter.Json
import Listing.Json.Printer

/-! Whether a filter can be compiled. The first fault in reading order is reported. Below a negation
nothing is looked at: what stands there is validated when it is compiled. -/
namespace Listing

/-- What is expected of a value that a selector does not accept. -/
def Selector.refusal (s : Selector) (field value : String) : Error :=
  match s.domain with
  | .oneOf allowed => .notInEnum field value (Json.ofStrings allowed).text
  | .type t => .invalidValue field value t.name
  | .any => .invalidValue field value "type"

namespace Operand

def text (o : Operand) : String := o.toJson.text

def filter? : Operand → Except Error Filter
  | filter f => .ok f
  | stray s => .error (.invalidOperand (stray s).text)

/-- The operand of a negation. -/
def only? : List Operand → Except Error Filter
  | [] => .error (.missingOperands Connective.not.name)
  | [o] => o.filter?
  | _ :: o :: _ => .error (.invalidOperand o.text)

end Operand

namespace Config

/-- A field has a selector that accepts the value; a bare selector accepts all, and so does one whose
operator does not compare values. -/
def checkValue (cfg : Config) (skips : Bool) (field value : String) : Except Error Unit :=
  match cfg.selectors.get? field with
  | none => .error (.unknownSelector field)
  | some s =>
    if !s.isRecord || skips || s.accepts value then .ok () else .error (s.refusal field value)

def checkComparison (cfg : Config) (c : Comparison) : Except Error Unit :=
  let plugin := cfg.plugins.find? c.operator
  if !Operator.isKnown c.operator && plugin.isNone then .error (.unknownOperator c.operator)
  else if c.firstOperand = "" then .error (.missingValue c.selector)
  else if cfg.lax then .ok ()
  else cfg.checkValue (plugin.any (·.skipsDomain)) c.selector c.firstOperand

mutual

def validate (cfg : Config) : Filter → Except Error Unit
  | .comparison c => cfg.checkComparison c
  | .group .not os => do
    let _ ← Operand.only? os
  | .group k [] => .error (.missingOperands k.name)
  | .group _ (o :: os) => cfg.validateAll (o :: os)

def validateAll (cfg : Config) : List Operand → Except Error Unit
  | [] => .ok ()
  | .filter f :: os => do
    cfg.validate f
    cfg.validateAll os
  | .stray s :: _ => .error (.invalidOperand (Operand.stray s).text)

end

end Config
end Listing
