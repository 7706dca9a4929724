import Listing.Binding
import Listing.Config
import Listing.Cursor

/-! From sort keys and a cursor to SQL: the list to order by, and the condition that skips what earlier
pages have shown. -/
namespace Listing

structure OrderBy where
  list : String := ""
  /-- The condition of the cursor. -/
  seek : String := ""
  deriving DecidableEq, Repr

def OrderBy.isEmpty (o : OrderBy) : Bool := o.list.isEmpty && o.seek.isEmpty

namespace Config

/-- A field without a selector is sortable in lax mode only. -/
def isSortable (cfg : Config) (field : String) : Bool :=
  match cfg.selectors.get? field with
  | none => cfg.lax
  | some s => s.sortable? != some false

def sortText (cfg : Config) (k : SortKey) : String :=
  let column := cfg.resolve k.field
  match k.direction with
  | .asc => column
  | .desc => column ++ " " ++ cfg.format.keyword .desc

def sortList (cfg : Config) (keys : List SortKey) : String := String.intercalate "," (keys.map cfg.sortText)

/-- Rows behind the cursor come after it in the direction of the first key. -/
def seekSymbol : Direction → String
  | .asc => ">"
  | .desc => "<"

/-- The columns of the keys compared with the values of the cursor, all at once. -/
def seekText (cfg : Config) (direction : Direction) (keys : List SortKey)
    (places : List Placeholder) : String :=
  "(" ++ String.intercalate "," (keys.map fun k => cfg.resolve k.field) ++ ")"
    ++ cfg.format.symbol (seekSymbol direction)
    ++ "(" ++ String.intercalate "," (places.map Placeholder.text) ++ ")"

/-- The condition of a cursor, whose values are bound in the order of the keys. -/
def seek (cfg : Config) (keys : List SortKey) (cursor : String) : Binding String := do
  let values ← Binding.ofExcept (Cursor.decode cursor)
  if values.length ≠ keys.length then
    throw (.invalidCursor
      ("expected " ++ toString keys.length ++ " values, found " ++ toString values.length))
  match keys with
  | [] => return ""
  | k :: _ =>
    let places ← values.mapM fun s => Binding.place (.text s)
    return cfg.seekText k.direction keys places

/-- A cursor that is missing or blank starts at the first page. -/
def startOf : Option String → Option String := Option.filter fun s => !(Text.trimChars s.toList).isEmpty

def orderBy (cfg : Config) (keys : List SortKey) (cursor : Option String) : Binding OrderBy := do
  if let some k := keys.find? (!cfg.isSortable ·.field) then
    throw (.invalidSort k.field)
  let list := cfg.sortList keys
  match startOf cursor with
  | none => return { list }
  | some s => return { list, seek := ← cfg.seek keys s }

end Config
end Listing
