import Listing.Calendar.Pattern

/-! The texts that count as dates and times: a year, a month, a day, or a day with a time, which may have
seconds, a fraction of them and an offset. -/
namespace Listing.Calendar

def literal (c : Char) : Item := .oneOf [c]

def day : Pattern := [.field .year, literal '-', .field .month, literal '-', .field .day]

def minutes : Pattern := [.field .hour, literal ':', .field .minute]

def seconds : Pattern := minutes ++ [literal ':', .field .second]

/-- The strict form of a moment: every field in full. -/
def moment : Pattern :=
  [.digits .year, literal '-', .digits .month, literal '-', .digits .day, .oneOf ['T', 't', ' '],
   .digits .hour, literal ':', .digits .minute, literal ':', .digits .second, .fraction, .zone]

def zonedPatterns : List Pattern :=
  [moment, day ++ [literal 'T'] ++ seconds ++ [.fraction, .offset],
   day ++ [literal 'T'] ++ minutes ++ [.offset]]

/-- Times without an offset, after the letter T or a space. -/
def localPatterns : List Pattern :=
  [day ++ [literal 'T'] ++ seconds ++ [.fraction], day ++ [literal 'T'] ++ minutes,
   day ++ [.blanks] ++ seconds ++ [.fraction], day ++ [.blanks] ++ minutes]

/-- A letter Z at the end stands for universal time and may follow any local time. -/
def withoutZ (cs : List Char) : List Char := if cs.getLast? = some 'Z' then cs.dropLast else cs

/-- Length in bytes. -/
def byteLength (cs : List Char) : Nat := cs.foldr (fun c n => c.utf8Size + n) 0

/-- The character that starts at a place counted in bytes. -/
def charAt? : List Char → Nat → Option Char
  | [], _ => none
  | c :: _, 0 => some c
  | c :: cs, n + 1 => if c.utf8Size ≤ n + 1 then charAt? cs (n + 1 - c.utf8Size) else none

/-- A year alone gets its first day, and what may be a year and a month gets the month's. -/
def completed (cs : List Char) : List Char :=
  if byteLength cs = 4 && cs.all Char.isDigit then cs ++ "-01-01".toList
  else if byteLength cs = 7 && charAt? cs 4 == some '-' then cs ++ "-01".toList
  else cs

def isDay (cs : List Char) : Bool := byteLength cs = 10 && Pattern.matches day cs

def isIso8601 (cs : List Char) : Bool :=
  zonedPatterns.any (·.matches cs)
    || localPatterns.any (·.matches (withoutZ cs))
    || isDay (completed cs)

/-- A month in two digits. -/
def isMonth (a b : Char) : Bool :=
  a = '0' && "123456789".toList.contains b || a = '1' && "012".toList.contains b

/-- A day of some month in two digits. -/
def isMonthDay (D : Text.Digits) (a b : Char) : Bool :=
  a = '0' && "123456789".toList.contains b || ['1', '2'].contains a && D.has b || a = '3' && ['0', '1'].contains b

/-- Four digits, a month and a day up to the thirty-first, in that many digits at the front. -/
def startsWithDay (D : Text.Digits) : List Char → Bool
  | y₁ :: y₂ :: y₃ :: y₄ :: '-' :: m₁ :: m₂ :: '-' :: d₁ :: d₂ :: _ =>
    [y₁, y₂, y₃, y₄].all D.has && isMonth m₁ m₂ && isMonthDay D d₁ d₂
  | _ => false

end Listing.Calendar
