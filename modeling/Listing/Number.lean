import Listing.Binary64

/-! Numbers: integers of 64 bits where the written number is one, floating-point values otherwise. -/
namespace Listing

inductive Number where
  | int (n : Int64)
  | float (x : Binary64)
  deriving DecidableEq

namespace Number

def toBinary64 : Number → Binary64
  | int n => .ofInt n.toInt
  | float x => x

def isNaN : Number → Bool
  | int _ => false
  | float x => x.isNaN

/-- The integers that `int` can hold. -/
def fits (n : Int) : Bool := -0x8000000000000000 ≤ n && n < 0x8000000000000000

/-- An integer as a number: exact where it fits, the nearest floating-point value elsewhere. -/
def ofInt (n : Int) : Number := if fits n then int (.ofInt n) else float (.ofInt n)

theorem toInt_ofInt_of_fits {n : Int} (h : fits n = true) : (Int64.ofInt n).toInt = n := by
  simp only [fits, Bool.and_eq_true, decide_eq_true_eq] at h
  exact Int64.toInt_ofInt_of_le (by omega) (by omega)

end Number
end Listing
