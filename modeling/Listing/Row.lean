import Listing.Json.Printer
import Listing.Selector

/-! Rows of a result, as far as the next page needs them: the texts of their columns. -/
namespace Listing

inductive Row where
  /-- A value that has columns only if it is an object. -/
  | value (j : Json)
  | columns (d : Dictionary Json)
  | texts (d : Dictionary String)

namespace Row

/-- A string is its own text; any other value is written as JSON. -/
def columnText : Json → String
  | .string s => s
  | j => j.text

def has : Row → String → Bool
  | value (.object ms), name => (ms.lookup name).isSome
  | value _, _ => false
  | columns d, name => d.contains name
  | texts d, name => d.contains name

def text? : Row → String → Option String
  | value (.object ms), name => (ms.lookup name).map columnText
  | value _, _ => none
  | columns d, name => (d.get? name).map columnText
  | texts d, name => d.get? name

end Row

namespace Selectors

/-- The column of a row that holds a field: the one its selector names, if the row has it, and otherwise
the one with the field's own name. -/
def columnOf (ss : Selectors) (row : Row) (field : String) : String :=
  match (ss.get? field).bind Selector.rowCandidate? with
  | some name => if row.has name then name else field
  | none => field

end Selectors
end Listing
