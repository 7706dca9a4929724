import Listing.Binary64

/-! The decimal text of a finite value: the fewest digits that read back as the same value, and among
those the nearest to it. -/
namespace Listing.Binary64

/-- The reals that round to a magnitude: an interval over the common denominator `den`. -/
structure Rounding where
  low : Nat
  value : Nat
  high : Nat
  den : Nat
  /-- Both ends belong to the interval. -/
  closed : Bool

/-- The ends lie half way to the neighbours. The neighbour below is at half the distance where the
exponent steps. -/
def rounding (g : Nat) : Rounding :=
  let m := significand g
  let below := if m = hiddenBit && g ≥ 2 * hiddenBit then 1 else 2
  let (unit, den) := scaled 1 (exponent g - 2)
  ⟨(4 * m - below) * unit, 4 * m * unit, (4 * m + 2) * unit, den, m % 2 == 0⟩

def Rounding.covers (r : Rounding) (num den : Nat) : Bool :=
  let n := num * r.den
  let lo := r.low * den
  let hi := r.high * den
  (lo < n && n < hi) || (r.closed && (lo == n || n == hi))

/-- A natural number times a power of ten. -/
structure Decimal where
  digits : Nat
  exponent : Int
  deriving DecidableEq, Repr

/-- The multiple of `10 ^ p` that rounds to the magnitude and is nearest to it; of two at one distance
the even multiple. -/
def onGrid (r : Rounding) (p : Int) : Option Decimal :=
  let up := Nat.pow 10 p.toNat
  let down := Nat.pow 10 (-p).toNat
  let c := (r.value * down) / (r.den * up)
  let lower := r.covers (c * up) down
  let upper := r.covers ((c + 1) * up) down
  let nearest := roundHalfEven (r.value * down) (r.den * up)
  if lower && upper then some ⟨nearest, p⟩
  else if lower then some ⟨c, p⟩
  else if upper then some ⟨c + 1, p⟩
  else none

/-- The coarsest grid that meets the interval, from `10 ^ p` downwards. -/
def coarsest (r : Rounding) : Nat → Int → Decimal
  | 0, p => ⟨r.value * Nat.pow 10 (-p).toNat / (r.den * Nat.pow 10 p.toNat), p⟩
  | fuel + 1, p => (onGrid r p).getD (coarsest r fuel (p - 1))

/-- At most 17 digits are needed, so 24 grids below a power of ten above the value suffice. -/
def shortest (g : Nat) : Decimal :=
  let r := rounding g
  let bits : Int := (significand g).log2 + exponent g + 1
  coarsest r 24 (bits * 30103 / 100000 + 1)

/-- How the digits of a number are laid out: positions from `10 ^ fewest` to below `10 ^ most` are
written out, with a fraction always; other numbers get an exponent with its sign. -/
structure Layout where
  fewest : Int
  most : Int

def zeros (n : Nat) : List Char := List.replicate n '0'

def layOut (l : Layout) (d : Decimal) : List Char :=
  let ds := Nat.toDigits 10 d.digits
  let leading : Int := ds.length + d.exponent - 1
  if l.fewest ≤ leading && leading < l.most then
    if d.exponent ≥ 0 then ds ++ zeros d.exponent.toNat ++ ['.', '0']
    else if leading ≥ 0 then ds.take (leading.toNat + 1) ++ '.' :: ds.drop (leading.toNat + 1)
    else '0' :: '.' :: zeros (-leading - 1).toNat ++ ds
  else
    let fraction := if ds.length = 1 then [] else '.' :: ds.drop 1
    let sign := if leading < 0 then '-' else '+'
    ds.take 1 ++ fraction ++ 'e' :: sign :: Nat.toDigits 10 leading.natAbs

/-- Zero has one digit before and one after the point. -/
def magnitudeText (l : Layout) (g : Nat) : List Char :=
  if g = 0 then ['0', '.', '0'] else layOut l (shortest g)

def finiteText (l : Layout) (negative : Bool) (g : Nat) : List Char :=
  if negative then '-' :: magnitudeText l g else magnitudeText l g

end Listing.Binary64
