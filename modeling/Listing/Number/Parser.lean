import Listing.Number
import Listing.Text.Digits

/-! Numbers as clients write them. White space around a number is ignored, and no text at all is zero.
Then an integer that fits, a decimal literal, an infinity, and an integer in another radix are tried in
this order; what is none of them is not a number. Integers and decimal literals are told by patterns, which
take the digits of all scripts, and are then read, which goes wrong for digits that are not those of ASCII. -/
namespace Listing.Number

def splitSign : List Char → Bool × List Char
  | '-' :: cs => (true, cs)
  | '+' :: cs => (false, cs)
  | cs => (false, cs)

def digitsValue (cs : List Char) : Nat := Nat.ofDigitChars 10 cs 0

def isDigits (cs : List Char) : Bool := Text.Digits.usual.spell cs

/-- An optional sign and decimal digits. -/
def integer? (cs : List Char) : Option Int :=
  let (negative, ds) := splitSign cs
  if isDigits ds then some (if negative then -(digitsValue ds) else digitsValue ds) else none

/-- The digits after an optional point, and what follows them. -/
def fraction (D : Text.Digits) : List Char → List Char × List Char
  | '.' :: cs => (cs.takeWhile D.has, cs.dropWhile D.has)
  | cs => ([], cs)

/-- The digits on both sides of an optional point, and what follows them. -/
def splitMantissa (D : Text.Digits) (cs : List Char) : List Char × List Char × List Char :=
  (cs.takeWhile D.has, fraction D (cs.dropWhile D.has))

/-- Nothing, or the letter `e` and an integer. -/
def exponent? : List Char → Option Int
  | [] => some 0
  | c :: cs => if c = 'e' || c = 'E' then integer? cs else none

/-- A decimal literal: digits on at least one side of an optional point, and an optional exponent. -/
def decimal? (cs : List Char) : Option Binary64 := do
  let (negative, cs) := splitSign cs
  let (whole, part, rest) := splitMantissa .usual cs
  let ds := whole ++ part
  if ds.isEmpty then none
  let e ← exponent? rest
  return .ofDecimal negative (digitsValue ds) ds.length (e - part.length)

def infinity? (cs : List Char) : Option Binary64 :=
  let (negative, rest) := splitSign cs
  if rest = "Infinity".toList then some (.infinite negative) else none

/-- The value of a digit, with letters from ten on in either case. -/
def digitValue (c : Char) : Nat :=
  if c.isDigit then c.toNat - '0'.toNat
  else if 'a' ≤ c && c ≤ 'z' then c.toNat - 'a'.toNat + 10
  else if 'A' ≤ c && c ≤ 'Z' then c.toNat - 'A'.toNat + 10
  else 36

def radixOf (c : Char) : Option Nat :=
  if c = 'x' || c = 'X' then some 16
  else if c = 'o' || c = 'O' then some 8
  else if c = 'b' || c = 'B' then some 2
  else none

def ofDigits (radix : Nat) (cs : List Char) : Nat :=
  cs.foldl (fun n c => n * radix + digitValue c) 0

/-- A zero, the letter of the radix, and digits below it. -/
def inRadix? : List Char → Option Nat
  | '0' :: c :: cs => do
    let radix ← radixOf c
    if !cs.isEmpty && cs.all (digitValue · < radix) then return ofDigits radix cs else none
  | _ => none

namespace Pattern
variable (D : Text.Digits)

/-- An optional sign and digits. -/
def integer (cs : List Char) : Bool := D.spell (splitSign cs).2

def exponent : List Char → Bool
  | [] => true
  | c :: cs => (c = 'e' || c = 'E') && integer D cs

/-- An optional sign, digits on at least one side of an optional point, and an optional exponent. -/
def decimal (cs : List Char) : Bool :=
  let (whole, part, rest) := splitMantissa D (splitSign cs).2
  !(whole ++ part).isEmpty && exponent D rest

end Pattern

/-- A text without white space at its ends, where the patterns take the digits `D`. -/
def parseChars (D : Text.Digits) (cs : List Char) : Number :=
  if cs.isEmpty then int 0
  else match if Pattern.integer D cs then (integer? cs).filter fits else none with
  | some n => int (.ofInt n)
  | none =>
    if Pattern.decimal D cs then float ((decimal? cs).getD .nan)
    else match infinity? cs with
    | some x => float x
    | none => match (inRadix? cs).filter (fits ·) with
    | some n => int (.ofInt n)
    | none => float .nan

def parse (s : String) : Number := parseChars .unicode (Text.trimChars s.toList)

end Listing.Number
