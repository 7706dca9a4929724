import Listing.Binary64

/-! JSON values. An integer and a floating-point number are told apart by the way they are written. -/
namespace Listing

inductive Json where
  | null
  | bool (b : Bool)
  | integer (n : Int)
  | float (x : Binary64)
  | string (s : String)
  | array (items : List Json)
  | object (members : List (String × Json))
  deriving Inhabited

namespace Json

def asString? : Json → Option String
  | string s => some s
  | _ => none

def asBool? : Json → Option Bool
  | bool b => some b
  | _ => none

def asArray? : Json → Option (List Json)
  | array items => some items
  | _ => none

def asObject? : Json → Option (List (String × Json))
  | object members => some members
  | _ => none

/-- A list of strings and of nothing else. -/
def asStrings? (j : Json) : Option (List String) := j.asArray?.bind (·.mapM asString?)

def ofStrings (ss : List String) : Json := array (ss.map string)

/-- A member that may be left out: its default then, and otherwise what `read` makes of it. -/
def memberOr {α : Type} (members : List (String × Json)) (key : String) (default : α)
    (read : Json → Option α) : Option α :=
  match members.lookup key with
  | none => some default
  | some j => read j

/-- A value that may be null. -/
def nullable {α : Type} (read : Json → Option α) : Json → Option (Option α)
  | null => some none
  | j => (read j).map some

/-- The name of an alternative without content: a string, or an object that maps the name to null. -/
def asName? : Json → Option String
  | string s => some s
  | object [(name, null)] => some name
  | _ => none

theorem asStrings?_ofStrings (ss : List String) : (ofStrings ss).asStrings? = some ss := by
  simp only [asStrings?, ofStrings, asArray?, Option.bind_some]
  induction ss with
  | nil => rfl
  | cons s ss ih => simp [ih, asString?]

end Json
end Listing
