import Listing.Number
import Listing.Json

/-! Values bound to the placeholders of a query, and the list that numbers them. -/
namespace Listing

inductive Value where
  | bool (b : Bool)
  | number (n : Number)
  | text (s : String)
  | numbers (ns : List Number)
  | texts (ss : List String)
  deriving DecidableEq

namespace Value

def asText? : Value → Option String
  | text s => some s
  | _ => none

def asNumber? : Value → Option Number
  | number n => some n
  | _ => none

def asBool? : Value → Option Bool
  | bool b => some b
  | _ => none

def isList : Value → Bool
  | numbers _ | texts _ => true
  | _ => false

end Value

/-- The place of a value in the list, counted from one. -/
structure Placeholder where
  position : Nat
  deriving DecidableEq, Repr

def Placeholder.text (p : Placeholder) : String := "$" ++ toString p.position

/-- The values bound so far. A list that starts with values of the base query goes on after them. -/
structure Params where
  values : List Value := []
  deriving DecidableEq

namespace Params

def size (p : Params) : Nat := p.values.length

def isEmpty (p : Params) : Bool := p.values.isEmpty

/-- The placeholder of the value bound next. -/
def next (p : Params) : Placeholder := ⟨p.size + 1⟩

def push (p : Params) (v : Value) : Params := ⟨p.values ++ [v]⟩

/-- Binds a value at the next placeholder. -/
def place (v : Value) : StateM Params Placeholder := fun p => (p.next, p.push v)

def append (p : Params) (vs : List Value) : Params := ⟨p.values ++ vs⟩

/-- The first `n` values. -/
def truncate (p : Params) (n : Nat) : Params := ⟨p.values.take n⟩

@[simp] theorem size_push (p : Params) (v : Value) : (p.push v).size = p.size + 1 := by
  simp [push, size]

@[simp] theorem size_append (p : Params) (vs : List Value) : (p.append vs).size = p.size + vs.length := by
  simp [append, size]

@[simp] theorem append_nil (p : Params) : p.append [] = p := by simp [append]

theorem append_append (p : Params) (vs ws : List Value) :
    (p.append vs).append ws = p.append (vs ++ ws) := by simp [append]

@[simp] theorem truncate_append (p : Params) (vs : List Value) : (p.append vs).truncate p.size = p := by
  simp [append, truncate, size]

end Params
end Listing
