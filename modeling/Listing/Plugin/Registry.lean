import Listing.Error
import Listing.Operator
import Listing.Plugin
import Listing.Text.Display

/-! The plugins of a configuration. No two of them handle the same operator. -/
namespace Listing

structure Registry where
  plugins : List Plugin := []

namespace Registry

instance : EmptyCollection Registry := ⟨{}⟩
instance : Inhabited Registry := ⟨∅⟩

def find? (r : Registry) (token : String) : Option Plugin := r.plugins.find? (·.handles token)

def handles (r : Registry) (token : String) : Bool := (r.find? token).isSome

/-- An equality sign at either end, and at least one more byte. -/
def isEnclosed (token : String) : Bool :=
  3 ≤ token.utf8ByteSize && token.toList.head? == some '=' && token.toList.getLast? == some '='

def isWellFormed (token : String) : Bool := Operator.isKnown token || isEnclosed token

/-- Adds a plugin behind those of the registry at hand, or refuses it. -/
def add (p : Plugin) : EStateM Error Registry Unit := do
  if !isWellFormed p.token then throw (.invalidPluginOperator p.token)
  else if (← get).handles p.token then throw (.duplicatePlugin p.token)
  else modify fun r => ⟨r.plugins ++ [p]⟩

def register (r : Registry) (p : Plugin) : Except Error Registry :=
  match add p r with
  | .ok _ s => .ok s
  | .error e _ => .error e

/-- Registers plugins in order, up to the first that is refused. -/
def ofList (ps : List Plugin) : Except Error Registry := ps.foldlM register ∅

def tokens (r : Registry) : List String := r.plugins.map Plugin.token

def size (r : Registry) : Nat := r.plugins.length

def isEmpty (r : Registry) : Bool := r.plugins.isEmpty

/-- The tokens as shown to people. -/
def display (r : Registry) : String := Text.displayList r.tokens

end Registry
end Listing
