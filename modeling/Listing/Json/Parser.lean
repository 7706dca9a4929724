import Listing.Json
import Listing.Dictionary
import Listing.Number.Parser

/-! Reading JSON text. The members of an object are put in the order of their keys, and the last of
several with one key counts. -/
namespace Listing.Json.Parser

def isSpace (c : Char) : Bool := c = ' ' || c = '\t' || c = '\n' || c = '\r'

def skip (cs : List Char) : List Char := cs.dropWhile isSpace

/-- The number that four hexadecimal digits stand for. -/
def unit? (ds : List Char) : Option Nat :=
  if ds.all (Number.digitValue · < 16) then some (Number.ofDigits 16 ds) else none

def simpleEscape? (c : Char) : Option Char :=
  if c = '"' || c = '\\' || c = '/' then some c
  else if c = 'b' then some '\x08'
  else if c = 'f' then some '\x0c'
  else if c = 'n' then some '\n'
  else if c = 'r' then some '\r'
  else if c = 't' then some '\t'
  else none

def isLeading (u : Nat) : Bool := 0xD800 ≤ u && u < 0xDC00

def isTrailing (u : Nat) : Bool := 0xDC00 ≤ u && u < 0xE000

def pairValue (lead trail : Nat) : Nat := 0x10000 + (lead - 0xD800) * 0x400 + (trail - 0xDC00)

/-- The characters up to the closing quote, and the rest. A code unit of a pair stands only beside its
partner. -/
def stringBody : List Char → Option (List Char × List Char)
  | [] => none
  | c :: cs =>
    let push (c : Char) (r : Option (List Char × List Char)) := r.map fun p => (c :: p.1, p.2)
    if c = '"' then some ([], cs)
    else if c = '\\' then
      match cs with
      | 'u' :: d₁ :: d₂ :: d₃ :: d₄ :: cs =>
        match unit? [d₁, d₂, d₃, d₄] with
        | none => none
        | some u =>
          if isTrailing u then none
          else if isLeading u then
            match cs with
            | '\\' :: 'u' :: e₁ :: e₂ :: e₃ :: e₄ :: cs =>
              match (unit? [e₁, e₂, e₃, e₄]).filter isTrailing with
              | some v => push (.ofNat (pairValue u v)) (stringBody cs)
              | none => none
            | _ => none
          else push (.ofNat u) (stringBody cs)
      | e :: cs =>
        match simpleEscape? e with
        | some c => push c (stringBody cs)
        | none => none
      | [] => none
    else if c.toNat < 32 then none
    else push c (stringBody cs)

def largestWord : Nat := 0xFFFFFFFFFFFFFFFF

/-- Extends a number by the leading digits with which it still fits a word. -/
def extend (n : Nat) : List Char → Nat × List Char
  | [] => (n, [])
  | d :: ds =>
    let m := n * 10 + Number.digitValue d
    if m ≤ largestWord then extend m ds else (n, d :: ds)

/-- The magnitude of the floating-point number nearest to a power of ten. -/
def powerOfTen (k : Nat) : Nat := Binary64.roundedMagnitude (Nat.pow 10 k) 1

/-- A magnitude times `10 ^ e`, rounded after each factor; no factor lies outside the powers of ten up to
the 308th. -/
def scale (negative : Bool) : Nat → Nat → Int → Option Binary64
  | 0, _, _ => some (.ofMagnitude negative 0)
  | fuel + 1, g, e =>
    if g = 0 then some (.ofMagnitude negative 0)
    else if e > 308 then none
    else if e ≥ 0 then (some (Binary64.times negative g (powerOfTen e.toNat))).filter (·.isFinite)
    else if e ≥ -308 then some (Binary64.dividedBy negative g (powerOfTen (-e).toNat))
    else match Binary64.dividedBy negative g (powerOfTen 308) with
      | .finite _ g => scale negative fuel g (e + 308)
      | _ => none

/-- The floating-point number for leading digits, read as a word, and a power of ten. The word has at
most 20 digits, so four factors take any number to zero. -/
def float? (negative : Bool) (word : Nat) (e : Int) : Option Binary64 :=
  match Binary64.ofInt word with
  | .finite _ g => scale negative 4 g e
  | _ => none

/-- A whole number that is not too long for a word, with its sign. -/
def ofWord (negative : Bool) (word : Nat) : Json :=
  if !negative then integer word
  else if word = 0 || word > 0x8000000000000000 then
    match Binary64.ofInt word with
    | .finite _ g => float (.finite true g)
    | x => float x
  else integer (-word)

def exponentPart : List Char → Option (Option Int × List Char)
  | c :: cs =>
    if c = 'e' || c = 'E' then
      let (negative, cs) := Number.splitSign cs
      let ds := cs.takeWhile Char.isDigit
      if ds.isEmpty then none
      else
        let n : Int := Number.digitsValue ds
        some (some (if negative then -n else n), cs.dropWhile Char.isDigit)
    else some (none, c :: cs)
  | [] => some (none, [])

def fractionPart : List Char → Option (Option (List Char) × List Char)
  | '.' :: cs =>
    let ds := cs.takeWhile Char.isDigit
    if ds.isEmpty then none else some (some ds, cs.dropWhile Char.isDigit)
  | cs => some (none, cs)

/-- Digits past the word do not count; those before the point still move it. -/
def number (cs : List Char) : Option (Json × List Char) := do
  let (negative, cs) := match cs with
    | '-' :: cs => (true, cs)
    | cs => (false, cs)
  let whole := cs.takeWhile Char.isDigit
  if whole.isEmpty || (whole.head? == some '0' && whole.length > 1) then none
  let (fraction, rest) ← fractionPart (cs.dropWhile Char.isDigit)
  let (e, rest) ← exponentPart rest
  let (word, beyond) := extend 0 whole
  if beyond.isEmpty && fraction.isNone && e.isNone then return (ofWord negative word, rest)
  let places := fraction.getD []
  let (word, lost) := extend word places
  let used : Int := places.length - lost.length
  let x ← float? negative word (beyond.length - used + e.getD 0)
  return (float x, rest)

def literal (word : List Char) (j : Json) (cs : List Char) : Option (Json × List Char) :=
  if word.isPrefixOf cs then some (j, cs.drop word.length) else none

/-- Arrays and objects stand in one another at most this deep. -/
def deepest : Nat := 127

mutual

/-- Reads a value with at most `depth` arrays and objects in one another. -/
def value : Nat → Nat → List Char → Option (Json × List Char)
  | 0, _, _ => none
  | fuel + 1, depth, cs =>
    match skip cs with
    | [] => none
    | c :: cs =>
      if c = '"' then (stringBody cs).map fun p => (string (.ofList p.1), p.2)
      else if c = '[' then
        if depth = 0 then none
        else match skip cs with
        | ']' :: cs => some (array [], cs)
        | _ => (items fuel (depth - 1) cs).map fun p => (array p.1, p.2)
      else if c = '\x7b' then
        if depth = 0 then none
        else match skip cs with
        | '\x7d' :: cs => some (object [], cs)
        | _ => (members fuel (depth - 1) cs).map fun p => (object (sortEntries p.1), p.2)
      else if c = 't' then literal "rue".toList (bool true) cs
      else if c = 'f' then literal "alse".toList (bool false) cs
      else if c = 'n' then literal "ull".toList null cs
      else number (c :: cs)

def items : Nat → Nat → List Char → Option (List Json × List Char)
  | 0, _, _ => none
  | fuel + 1, depth, cs =>
    match value fuel depth cs with
    | none => none
    | some (j, cs) =>
      match skip cs with
      | ',' :: cs => (items fuel depth cs).map fun p => (j :: p.1, p.2)
      | ']' :: cs => some ([j], cs)
      | _ => none

def members : Nat → Nat → List Char → Option (List (String × Json) × List Char)
  | 0, _, _ => none
  | fuel + 1, depth, cs =>
    match skip cs with
    | '"' :: cs =>
      match stringBody cs with
      | none => none
      | some (k, cs) =>
        match skip cs with
        | ':' :: cs =>
          match value fuel depth cs with
          | none => none
          | some (j, cs) =>
            match skip cs with
            | ',' :: cs => (members fuel depth cs).map fun p => ((String.ofList k, j) :: p.1, p.2)
            | '\x7d' :: cs => some ([(String.ofList k, j)], cs)
            | _ => none
        | _ => none
    | _ => none

end

/-- Every two steps down take a character, so the steps are bounded by the length. -/
def document (cs : List Char) : Option Json :=
  match value (2 * cs.length + 2) deepest cs with
  | some (j, rest) => if (skip rest).isEmpty then some j else none
  | none => none

end Listing.Json.Parser

namespace Listing.Json

def parse? (s : String) : Option Json := Parser.document s.toList

end Listing.Json
