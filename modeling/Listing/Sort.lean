import Listing.Text.Blank

/-! The order asked for, as a list of fields with their directions. -/
namespace Listing

inductive Direction where
  | asc | desc
  deriving DecidableEq, Repr

def Direction.name : Direction → String
  | asc => "asc"
  | desc => "desc"

structure SortKey where
  field : String
  direction : Direction := .asc
  deriving DecidableEq, Repr

namespace SortKey

/-- The texts between the commas; there is always one more than there are commas. -/
def entries : List Char → List (List Char)
  | [] => [[]]
  | c :: cs =>
    match entries cs with
    | [] => [[c]]
    | e :: es => if c = ',' then [] :: e :: es else (c :: e) :: es

theorem length_entries (cs : List Char) : (entries cs).length = cs.count ',' + 1 := by
  induction cs with
  | nil => rfl
  | cons c cs ih =>
    unfold entries
    split
    · rename_i h
      simp [h] at ih
    · rename_i e es h
      rw [h] at ih
      by_cases hc : c = ','
      · simp_all
      · rw [if_neg hc, List.count_cons_of_ne (fun h => hc h), ← ih]
        rfl

/-- One sign in front tells the direction. -/
def splitDirection : List Char → Direction × List Char
  | '-' :: cs => (.desc, cs)
  | '+' :: cs => (.asc, cs)
  | cs => (.asc, cs)

/-- An entry without a field is none. -/
def parse? (entry : List Char) : Option SortKey :=
  let (direction, rest) := splitDirection (Text.trimChars entry)
  let field := Text.trimChars rest
  if field.isEmpty then none else some ⟨.ofList field, direction⟩

/-- Reads a text such as `-points, name`: descending by the first field, then ascending by the second. -/
def parseList (s : String) : List SortKey := (entries s.toList).filterMap parse?

end SortKey
end Listing
