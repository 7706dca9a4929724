import Listing.Calendar
import Listing.Number.Parser

/-! Patterns of dates and times of day, and reading a text by one. -/
namespace Listing.Calendar

inductive Field where
  | year | month | day | hour | minute | second
  deriving DecidableEq, Repr

namespace Field

def width : Field → Nat
  | year => 4
  | _ => 2

def least : Field → Nat
  | month | day => 1
  | _ => 0

/-- A minute may have a sixty-first second. A year has no greatest value here. -/
def greatest? : Field → Option Nat
  | year => none
  | month => some 12
  | day => some 31
  | hour => some 23
  | minute => some 59
  | second => some 60

def allows (f : Field) (n : Nat) : Bool := f.least ≤ n && f.greatest?.all (n ≤ ·)

end Field

/-- A local date and time of day, and how many minutes it is ahead of universal time. -/
structure Stamp where
  date : Date := ⟨1, 1, 1⟩
  hour : Nat := 0
  minute : Nat := 0
  second : Nat := 0
  ahead : Int := 0
  deriving DecidableEq, Repr

namespace Stamp

def setYear (s : Stamp) (y : Int) : Stamp := { s with date := { s.date with year := y } }

def set (s : Stamp) (n : Nat) : Field → Stamp
  | .year => s.setYear n
  | .month => { s with date := { s.date with month := n } }
  | .day => { s with date := { s.date with day := n } }
  | .hour => { s with hour := n }
  | .minute => { s with minute := n }
  | .second => { s with second := n }

/-- Minutes from midnight to the same moment in universal time; negative on the day before. -/
def universalMinute (s : Stamp) : Int := s.hour * 60 + s.minute - s.ahead

/-- The date is in range, in local and in universal time. -/
def inRange (s : Stamp) : Bool :=
  s.date.inRange
    && !(s.date = Date.first && s.universalMinute < 0)
    && !(s.date = Date.last && s.universalMinute ≥ 24 * 60)

end Stamp

inductive Item where
  /-- White space that is skipped, then at least one digit and at most the field's width. A year may have
  a sign, and then any number of digits. -/
  | field (f : Field)
  /-- As many digits as the field is wide. -/
  | digits (f : Field)
  | oneOf (cs : List Char)
  | blanks
  /-- Nothing, or a point and digits. -/
  | fraction
  /-- A sign, two digits of hours and two of minutes; white space may precede it, and white space and colons
  may part it. -/
  | offset
  /-- A letter for universal time, or a sign, two digits of hours, a colon and two of minutes. -/
  | zone

abbrev Pattern := List Item

/-- The number in at most `width` leading digits, and the rest. -/
def number (width : Nat) (cs : List Char) : Option (Nat × List Char) :=
  let ds := (cs.take width).takeWhile Char.isDigit
  if ds.isEmpty then none else some (Number.digitsValue ds, cs.drop ds.length)

def readField (f : Field) (s : Stamp) (cs : List Char) : Option (Stamp × List Char) := do
  let (n, cs) ← number f.width cs
  if f.allows n then return (s.set n f, cs) else none

def readYear (s : Stamp) (cs : List Char) : Option (Stamp × List Char) :=
  match cs with
  | '-' :: cs => (number cs.length cs).map fun p => (s.setYear (-p.1), p.2)
  | '+' :: cs => (number cs.length cs).map fun p => (s.setYear p.1, p.2)
  | cs => readField .year s cs

/-- A minus sign may be the hyphen or the mathematical sign. -/
def readSign : List Char → Option (Bool × List Char)
  | '+' :: cs => some (false, cs)
  | '-' :: cs => some (true, cs)
  | '−' :: cs => some (true, cs)
  | _ => none

def twoDigits (cs : List Char) : Option (Nat × List Char) :=
  if (cs.take 2).length = 2 && (cs.take 2).all Char.isDigit then number 2 cs else none

/-- An offset of less than a day. The function takes what parts hours and minutes. -/
def readOffset (part : List Char → Option (List Char)) (s : Stamp) (cs : List Char) :
    Option (Stamp × List Char) := do
  let (behind, cs) ← readSign cs
  let (hours, cs) ← twoDigits cs
  let cs ← part cs
  let (minutes, cs) ← twoDigits cs
  if hours < 24 && minutes < 60 then
    let n : Int := hours * 60 + minutes
    return ({ s with ahead := if behind then -n else n }, cs)
  else none

def colon : List Char → Option (List Char)
  | ':' :: cs => some cs
  | _ => none

def Item.read (s : Stamp) (cs : List Char) : Item → Option (Stamp × List Char)
  | field .year => readYear s (Text.skipBlanks cs)
  | field f => readField f s (Text.skipBlanks cs)
  | digits f =>
    if (cs.take f.width).length = f.width && (cs.take f.width).all Char.isDigit then readField f s cs
    else none
  | oneOf cs' =>
    match cs with
    | c :: cs => if cs'.contains c then some (s, cs) else none
    | [] => none
  | blanks => some (s, Text.skipBlanks cs)
  | fraction =>
    match cs with
    | '.' :: cs => (number cs.length cs).map fun p => (s, p.2)
    | cs => some (s, cs)
  | offset =>
    readOffset (fun cs => some (cs.dropWhile fun c => c = ':' || Text.isBlank c)) s (Text.skipBlanks cs)
  | zone =>
    match cs with
    | 'Z' :: cs => some (s, cs)
    | 'z' :: cs => some (s, cs)
    | cs => readOffset colon s cs

def Pattern.readFrom (s : Stamp) (cs : List Char) : Pattern → Option Stamp
  | [] => if cs.isEmpty then some s else none
  | i :: is =>
    match i.read s cs with
    | some (s, cs) => readFrom s cs is
    | none => none

/-- The moment that a text names by a pattern, if the calendar has it. -/
def Pattern.read? (p : Pattern) (cs : List Char) : Option Stamp :=
  (p.readFrom {} cs).filter (·.inRange)

def Pattern.matches (p : Pattern) (cs : List Char) : Bool := (p.read? cs).isSome

end Listing.Calendar
