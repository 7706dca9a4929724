import Listing.Json
import Listing.Binary64.Shortest

/-! The compact text of a JSON value. Members keep the order in which the value lists them. -/
namespace Listing.Json

/-- Plain notation from `10 ^ -5` to below `10 ^ 16`, an exponent with its sign elsewhere. -/
def floatLayout : Binary64.Layout := ⟨-5, 16⟩

def escape (c : Char) : List Char :=
  if c = '"' then ['\\', '"']
  else if c = '\\' then ['\\', '\\']
  else if c = '\x08' then ['\\', 'b']
  else if c = '\t' then ['\\', 't']
  else if c = '\n' then ['\\', 'n']
  else if c = '\x0c' then ['\\', 'f']
  else if c = '\r' then ['\\', 'r']
  else if c.toNat < 32 then
    ['\\', 'u', '0', '0', Nat.digitChar (c.toNat / 16), Nat.digitChar (c.toNat % 16)]
  else [c]

/-- The characters of a string between its quotes, and the closing quote. -/
def quotedBody (cs : List Char) : List Char := cs.flatMap escape ++ ['"']

def quoted (s : String) : List Char := '"' :: quotedBody s.toList

/-- Values that are not finite have no number text. -/
def floatChars : Binary64 → List Char
  | .finite negative g => Binary64.finiteText floatLayout negative g
  | _ => "null".toList

mutual

def chars : Json → List Char
  | null => "null".toList
  | bool b => if b then "true".toList else "false".toList
  | integer n => (toString n).toList
  | float x => floatChars x
  | string s => quoted s
  | array items => '[' :: itemsChars items
  | object members => '{' :: membersChars members

def itemsChars : List Json → List Char
  | [] => [']']
  | j :: js => chars j ++ moreItems js

def moreItems : List Json → List Char
  | [] => [']']
  | j :: js => ',' :: chars j ++ moreItems js

def membersChars : List (String × Json) → List Char
  | [] => ['}']
  | (k, j) :: ms => quoted k ++ ':' :: chars j ++ moreMembers ms

def moreMembers : List (String × Json) → List Char
  | [] => ['}']
  | (k, j) :: ms => ',' :: quoted k ++ ':' :: chars j ++ moreMembers ms

end

def text (j : Json) : String := .ofList j.chars

end Listing.Json
