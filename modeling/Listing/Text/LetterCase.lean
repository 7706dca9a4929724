import Listing.Text.LetterCase.Table

/-! Texts in capital and in small letters, after Unicode's full mappings: a letter may become
several, and a capital sigma that ends a word becomes the final small one. -/
namespace Listing.Text
namespace LetterCase

def Run.covers (r : Run) (n : Nat) : Bool := r.first ≤ n && n ≤ r.last && (n - r.first) % r.step == 0

def mapped (runs : List Run) (expansions : List (Nat × List Nat)) (c : Char) : List Char :=
  match expansions.lookup c.toNat with
  | some cs => cs.map Char.ofNat
  | none =>
    match runs.find? (·.covers c.toNat) with
    | some r => [Char.ofNat (c.toNat + r.shift).toNat]
    | none => [c]

def upperChar (c : Char) : List Char :=
  if c.toNat < 128 then [c.toUpper] else mapped upperRuns upperExpansions c

def lowerChar (c : Char) : List Char :=
  if c.toNat < 128 then [c.toLower] else mapped lowerRuns lowerExpansions c

/-- The nearest character that is not ignored belongs to a word. -/
def touchesWord (cs : List Char) : Bool :=
  match cs.dropWhile ignorableRanges.has with
  | c :: _ => casedRanges.has c
  | [] => false

/-- The first argument holds what stands before, nearest first. -/
def lowerFrom (before : List Char) : List Char → List Char
  | [] => []
  | c :: cs =>
    (if c = 'Σ' then [if touchesWord before && !touchesWord cs then 'ς' else 'σ'] else lowerChar c)
      ++ lowerFrom (c :: before) cs

end LetterCase

def upper (s : String) : String := .ofList (s.toList.flatMap LetterCase.upperChar)

def lower (s : String) : String := .ofList (LetterCase.lowerFrom [] s.toList)

example : upper "straße" = "STRASSE" := by decide +kernel
example : lower "ΑΣ ΣΑ" = "ας σα" := by decide +kernel

end Listing.Text
