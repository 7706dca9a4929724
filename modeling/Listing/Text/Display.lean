import Listing.Text.Display.Table

/-! Texts as a listing for people shows them: in quotes, with what cannot be seen written by number. -/
namespace Listing.Text
namespace Display

def byNumber (c : Char) : List Char := "\\u\x7b".toList ++ Nat.toDigits 16 c.toNat ++ ['\x7d']

def shown (c : Char) : List Char :=
  if c = '\x00' then ['\\', '0']
  else if c = '\t' then ['\\', 't']
  else if c = '\r' then ['\\', 'r']
  else if c = '\n' then ['\\', 'n']
  else if c = '\\' || c = '"' then ['\\', c]
  else if extendingRanges.has c || invisibleRanges.has c then byNumber c
  else [c]

end Display

def quotedForDisplay (s : String) : String :=
  .ofList ('"' :: s.toList.flatMap Display.shown ++ ['"'])

def displayList (ss : List String) : String :=
  "[" ++ String.intercalate ", " (ss.map quotedForDisplay) ++ "]"

end Listing.Text
