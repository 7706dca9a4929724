import Listing.Text.Ranges

/-! White space, and texts freed of it at their ends. -/
namespace Listing.Text

/-- The Unicode property White_Space. -/
def blankRanges : Ranges :=
  [(0x9,0xD), (0x20,0x20), (0x85,0x85), (0xA0,0xA0), (0x1680,0x1680), (0x2000,0x200A),
   (0x2028,0x2029), (0x202F,0x202F), (0x205F,0x205F), (0x3000,0x3000)]

def isBlank (c : Char) : Bool := blankRanges.has c

/-- The ASCII blanks of `Char.isWhitespace` are among them. -/
example : [' ','\t','\r','\n'].all isBlank = true := by decide

def skipBlanks (cs : List Char) : List Char := cs.dropWhile isBlank

def dropTrailing (p : Char → Bool) (cs : List Char) : List Char := (cs.reverse.dropWhile p).reverse

def trimChars (cs : List Char) : List Char := dropTrailing isBlank (skipBlanks cs)

/-- The text without white space at either end. -/
def trim (s : String) : String := .ofList (trimChars s.toList)

/-- Equality that ignores the case of ASCII letters and of no other. -/
def sameIgnoringCase (a b : String) : Bool := a.toList.map Char.toLower == b.toList.map Char.toLower

end Listing.Text
