/-! Days of the Gregorian calendar, extended to the years before it and cut off far from today. -/
namespace Listing

def isLeapYear (y : Int) : Bool := y % 4 = 0 && (y % 100 ≠ 0 || y % 400 = 0)

def daysInMonth (y : Int) (m : Nat) : Nat :=
  if m = 2 then (if isLeapYear y then 29 else 28)
  else if m = 4 || m = 6 || m = 9 || m = 11 then 30
  else 31

structure Date where
  year : Int
  month : Nat
  day : Nat
  deriving DecidableEq, Repr

namespace Date

/-- The month and day exist. -/
def isReal (d : Date) : Bool :=
  1 ≤ d.month && d.month ≤ 12 && 1 ≤ d.day && d.day ≤ daysInMonth d.year d.month

def first : Date := ⟨-262143, 1, 1⟩

def last : Date := ⟨262142, 12, 31⟩

def inRange (d : Date) : Bool := d.isReal && first.year ≤ d.year && d.year ≤ last.year

end Date
end Listing
