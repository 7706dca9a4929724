import Listing.OrderBy
import Listing.Proofs.Runs

/-! Ordering without the list of values: what makes it fail does not depend on the list, and its text
depends on the list by the number of its values only. -/
namespace Listing
namespace Config

/-- The values of a cursor that has one for each key. -/
def cursorValues (keys : List SortKey) (cursor : String) : Except Error (List String) :=
  match Cursor.decode cursor with
  | .error e => .error e
  | .ok values =>
    if values.length = keys.length then .ok values
    else .error (.invalidCursor
      ("expected " ++ toString keys.length ++ " values, found " ++ toString values.length))

/-- What an order binds, or why it is refused. -/
def orderValues (cfg : Config) (keys : List SortKey) (cursor : Option String) :
    Except Error (List Value) :=
  match keys.find? (!cfg.isSortable ·.field) with
  | some k => .error (.invalidSort k.field)
  | none =>
    match startOf cursor with
    | none => .ok []
    | some s => (cursorValues keys s).map (·.map .text)

/-- The condition of a cursor behind `n` values. -/
def seekAfter (cfg : Config) (n : Nat) : List SortKey → String
  | [] => ""
  | k :: ks => cfg.seekText k.direction (k :: ks) (Binding.placesFrom n (k :: ks).length)

/-- The text of an order behind `n` values. The cursor counts by its presence only. -/
def orderAfter (cfg : Config) (n : Nat) (keys : List SortKey) (cursor : Option String) : OrderBy where
  list := cfg.sortList keys
  seek := if (startOf cursor).isSome then cfg.seekAfter n keys else ""

lemma seek_computes (cfg : Config) (keys : List SortKey) (s : String) :
    (cfg.seek keys s).Computes ((cursorValues keys s).map (·.map .text)) (cfg.seekAfter · keys) := by
  intro p
  unfold seek cursorValues
  cases Cursor.decode s with
  | error e => rfl
  | ok values =>
    rw [Binding.bind_of_ok (Binding.ofExcept_ok_run values p)]
    by_cases hl : values.length = keys.length
    · simp only [hl, ne_eq, not_true_eq_false, if_true, if_false]
      cases keys with
      | nil =>
        have hv : values = [] := List.eq_nil_of_length_eq_zero hl
        subst hv
        simp [seekAfter, Except.map]
      | cons k ks =>
        have hm := Binding.mapM_place_run Value.text values p
        simp only
        rw [Binding.bind_of_ok hm, hl]
        rfl
    · simp only [hl, ne_eq, not_false_eq_true, if_true, if_false]
      rfl

/-- The whole of an order: one check that reads no list, then a text and values at the list's end. -/
theorem orderBy_computes (cfg : Config) (keys : List SortKey) (cursor : Option String) :
    (cfg.orderBy keys cursor).Computes (cfg.orderValues keys cursor) (cfg.orderAfter · keys cursor) := by
  intro p
  unfold orderBy orderValues orderAfter
  cases keys.find? (!cfg.isSortable ·.field) with
  | some k => rfl
  | none =>
    cases hs : startOf cursor with
    | none => simp
    | some s =>
      have hb := (seek_computes cfg keys s).bind_pure (OrderBy.mk (cfg.sortList keys)) p
      simpa only [Option.isSome_some, if_true] using hb

end Config
end Listing
