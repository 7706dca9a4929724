import Listing.Error
import Listing.Value

/-! Actions that bind values to placeholders and may fail. -/
namespace Listing

/-- A failing action keeps the values bound before it failed, unless it is run by `restoring`. -/
abbrev Binding := EStateM Error Params

namespace Binding
variable {α : Type}

def ofExcept : Except Error α → Binding α
  | .ok a => pure a
  | .error e => throw e

def ofState (x : StateM Params α) : Binding α := modifyGet x

def place (v : Value) : Binding Placeholder := ofState (Params.place v)

/-- Takes back the values of an action that fails. -/
def restoring (x : Binding α) : Binding α := fun p =>
  match x p with
  | .ok a q => .ok a q
  | .error e q => .error e (q.truncate p.size)

theorem restoring_of_ok {x : Binding α} {p q : Params} {a : α} (h : x p = .ok a q) :
    restoring x p = .ok a q := by simp [restoring, h]

theorem restoring_of_error {x : Binding α} {p q : Params} {e : Error} (h : x p = .error e q) :
    restoring x p = .error e (q.truncate p.size) := by simp [restoring, h]

end Binding
end Listing
