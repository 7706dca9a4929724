/-! Floating-point numbers of 64 bits, as the reals they stand for: a sign, and a magnitude that
counts the finite values from zero upwards. Rounding is exact arithmetic on ratios. -/
namespace Listing

/-- Nearest integer to `num / den`; a half goes to the even neighbour. -/
def roundHalfEven (num den : Nat) : Nat :=
  let q := num / den
  let twice := 2 * (num % den)
  if twice > den || (twice == den && q % 2 == 1) then q + 1 else q

/-- A value of the interchange format. The magnitude of a finite one is its bit pattern without the
sign, so magnitudes are ordered as the reals they stand for. -/
inductive Binary64 where
  | nan
  | infinite (negative : Bool)
  | finite (negative : Bool) (magnitude : Fin (0x7FF <<< 52))
  deriving DecidableEq, Repr

namespace Binary64

/-- The bit above the fraction field. -/
def hiddenBit : Nat := 1 <<< 52

/-- Integer factor of a magnitude: the fraction field, with the hidden bit of a normal value. -/
def significand (g : Nat) : Nat := if g < hiddenBit then g else g % hiddenBit + hiddenBit

/-- A magnitude `g` stands for `significand g * 2 ^ exponent g`. -/
def exponent (g : Nat) : Int := (max (g / hiddenBit) 1 : Nat) - 1075

/-- A power of two times a natural number, as numerator and denominator. -/
def scaled (n : Nat) (e : Int) : Nat × Nat := (n <<< e.toNat, 1 <<< (-e).toNat)

def ratio (g : Nat) : Nat × Nat := scaled (significand g) (exponent g)

/-- Exponent at which `num / den` is rounded to an integer: it leaves 53 bits, or all that the
smallest exponent allows. -/
def roundingExponent (num den : Nat) : Int :=
  let e : Int := (num.log2 : Int) - den.log2 - 52
  let e := if num <<< (-e).toNat < den <<< e.toNat * hiddenBit then e - 1 else e
  max e (-1074)

def roundedMagnitude (num den : Nat) : Nat :=
  let e := roundingExponent num den
  (e + 1074).toNat * hiddenBit + roundHalfEven (num <<< (-e).toNat) (den <<< e.toNat)

def ofMagnitude (negative : Bool) (g : Nat) : Binary64 :=
  if h : g < 0x7FF <<< 52 then finite negative ⟨g, h⟩ else infinite negative

/-- The value nearest to `num / den`, or an infinity past the largest one. -/
def ofRatio (negative : Bool) (num den : Nat) : Binary64 :=
  if num = 0 then finite negative ⟨0, by decide⟩ else ofMagnitude negative (roundedMagnitude num den)

def ofInt (n : Int) : Binary64 := ofRatio (n < 0) n.natAbs 1

/-- Past this many decimal places every value is an infinity or zero. -/
def decimalReach : Nat := 400

/-- The value nearest to `n * 10 ^ e`, where `n` has at most `digits` digits. -/
def ofDecimal (negative : Bool) (n digits : Nat) (e : Int) : Binary64 :=
  if n = 0 || e + digits < -decimalReach then finite negative ⟨0, by decide⟩
  else if e > decimalReach then infinite negative
  else ofRatio negative (n * Nat.pow 10 e.toNat) (Nat.pow 10 (-e).toNat)

def isNaN : Binary64 → Bool
  | nan => true
  | _ => false

def isFinite : Binary64 → Bool
  | finite _ _ => true
  | _ => false

def withSign (negative : Bool) (bits : Nat) : Nat := if negative then 1 <<< 63 + bits else bits

/-- The bit pattern of the interchange format. -/
def toBits : Binary64 → Nat
  | nan => 0x7FF8 <<< 48
  | infinite negative => withSign negative (0x7FF <<< 52)
  | finite negative g => withSign negative g

/-- The product of two finite magnitudes, rounded. -/
def times (negative : Bool) (a b : Nat) : Binary64 :=
  ofRatio negative ((ratio a).1 * (ratio b).1) ((ratio a).2 * (ratio b).2)

/-- The quotient of two finite magnitudes, rounded. -/
def dividedBy (negative : Bool) (a b : Nat) : Binary64 :=
  ofRatio negative ((ratio a).1 * (ratio b).2) ((ratio a).2 * (ratio b).1)

example : ofInt 1 = finite false ⟨1023 <<< 52, by decide⟩ := by decide +kernel
example : ofInt (2^53 + 1) = ofInt (2^53) := by decide +kernel
example : ofDecimal false 5 1 (-324) = finite false ⟨1, by decide⟩ := by decide +kernel
example : ofDecimal false 18 2 308 = infinite false := by decide +kernel

end Binary64
end Listing
