import Listing.Plugin

/-! Plugins that are written down as a row of parts. -/
namespace Listing.Plugin

inductive Part where
  | text (s : String)
  | column
  | field
  | operator
  /-- A word in the case of keywords. -/
  | keyword (word : String)
  /-- The placeholder of the value bound next. -/
  | upcoming
  /-- The first operand, as a text. -/
  | first
  /-- All operands, as texts. -/
  | each
  /-- The first operand, as the column's value. -/
  | single
  /-- All operands, as the column's values. -/
  | list
  /-- A question mark, in place of a part that is not known. -/
  | mark
  deriving DecidableEq, Repr

def Part.render (c : Call) : Part → StateM Params String
  | text s => pure s
  | column => pure c.column
  | field => pure c.comparison.selector
  | operator => pure c.comparison.operator
  | keyword word => pure (c.format.word word)
  | upcoming => return (← get).next.text
  | first => return (← Params.place (.text c.comparison.firstOperand)).text
  | each => do
    let places ← c.comparison.operands.mapM fun s => Params.place (.text s)
    return String.intercalate "," (places.map Placeholder.text)
  | single => return (← Params.place (c.coerce false)).text
  | list => return (← Params.place (c.coerce true)).text
  | mark => pure "?"

/-- The parts in order. A part sees the values bound by those before it. -/
def renderParts (ps : List Part) (c : Call) : StateM Params String :=
  return String.join (← ps.mapM (·.render c))

end Listing.Plugin
