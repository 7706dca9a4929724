import Listing.Binding
import Listing.Validation

/-! From a filter to the SQL condition that it stands for, with a placeholder for each operand. -/
namespace Listing

/-- Wildcards, which count at the ends of an operand only. -/
structure Wildcards where
  leading : Bool
  trailing : Bool
  deriving DecidableEq, Repr

namespace Wildcards

def of (s : String) : Wildcards := ⟨s.toList.head? == some '*', s.toList.getLast? == some '*'⟩

def isNone (w : Wildcards) : Bool := !w.leading && !w.trailing

/-- The operand without its wildcards. -/
def core (w : Wildcards) (cs : List Char) : List Char :=
  let cs := if w.leading then cs.tail else cs
  if w.trailing && cs.getLast? == some '*' then cs.dropLast else cs

/-- The SQL pattern of an operand with wildcards. A wildcard on its own is looked for as a text. -/
def pattern (s : String) : String :=
  if s = "*" then "%*%"
  else
    let w := of s
    (if w.leading then "%" else "") ++ .ofList (w.core s.toList) ++ (if w.trailing then "%" else "")

end Wildcards

/-- A condition with one placeholder, which stands at its end. -/
structure Clause where
  head : String
  value : Value
  deriving DecidableEq

def Clause.bind (c : Clause) : Binding String := return c.head ++ (← Binding.place c.value).text

namespace Config

/-- Equality of a field and an operand, or their likeness if the operand has wildcards. -/
def equality (cfg : Config) (negated : Bool) (c : Comparison) : Clause :=
  let column := cfg.resolve c.selector
  if (Wildcards.of c.firstOperand).isNone then
    ⟨column ++ cfg.format.symbol (if negated then "<>" else "="), cfg.selectors.coerce c false⟩
  else
    ⟨column ++ " " ++ cfg.format.keyword (if negated then .notIlike else .ilike) ++ " ",
      .text (Wildcards.pattern c.firstOperand)⟩

/-- The condition of a comparison by a built-in operator. -/
def clause (cfg : Config) (c : Comparison) : Operator → Clause
  | .eq => cfg.equality false c
  | .ne => cfg.equality true c
  | op =>
    if op.isList then
      ⟨cfg.resolve c.selector ++ " " ++ op.sql cfg.format ++ " ", cfg.selectors.coerce c true⟩
    else
      ⟨cfg.resolve c.selector ++ op.sql cfg.format, cfg.selectors.coerce c false⟩

def runPlugin (cfg : Config) (p : Plugin) (c : Comparison) : Binding String :=
  match p.check c with
  | .error message => throw (.pluginInvariant c.operator message)
  | .ok () => .ofState (p.render ⟨cfg.resolve c.selector, c, cfg.selectors, cfg.format⟩)

/-- A plugin comes before the built-in operator that it replaces. -/
def compileComparison (cfg : Config) (c : Comparison) : Binding String :=
  match cfg.plugins.find? c.operator with
  | some p => cfg.runPlugin p c
  | none =>
    match Operator.parse? c.operator with
    | some op => (cfg.clause c op).bind
    | none => throw (.unsupportedFilter ("operator " ++ c.operator))

/-- The conditions of a group, in parentheses. -/
def joined (cfg : Config) (k : Keyword) (parts : List String) : String :=
  "(" ++ String.intercalate (" " ++ cfg.format.keyword k ++ " ") parts ++ ")"

mutual

def compile (cfg : Config) : Filter → Binding String
  | .comparison c => cfg.compileComparison c
  | .group .and os => return cfg.joined .and (← cfg.compileAll os)
  | .group .or os => return cfg.joined .or (← cfg.compileAll os)
  | .group .not [.filter f] => do
    Binding.ofExcept (cfg.validate f)
    return cfg.format.keyword .not ++ "(" ++ (← cfg.compile f) ++ ")"
  | .group .not [.stray s] => throw (.invalidOperand (Operand.stray s).text)
  | .group .not os => throw (.unsupportedFilter ("not with " ++ toString os.length ++ " operands"))

def compileAll (cfg : Config) : List Operand → Binding (List String)
  | [] => return []
  | .filter f :: os => do
    let part ← cfg.compile f
    return part :: (← cfg.compileAll os)
  | .stray s :: _ => throw (.invalidOperand (Operand.stray s).text)

end

/-- The condition of a filter; nothing without one. -/
def predicate (cfg : Config) : Option Filter → Binding String
  | none => return ""
  | some f => Binding.restoring do
    Binding.ofExcept (cfg.validate f)
    cfg.compile f

end Config
end Listing
