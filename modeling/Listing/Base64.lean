/-! Unpadded Base64 in the alphabet that is safe in addresses. Decoding is strict: it takes a text exactly
when encoding can give it, and names the fault of any other. -/
namespace Listing.Base64

/-- Symbols in the order of the six-bit numbers they stand for. -/
def alphabet : List Char :=
  "ABCDEFGHIJKLMNOPQRSTUVWXYZabcdefghijklmnopqrstuvwxyz0123456789-_".toList

def symbol (n : Nat) : Char := alphabet.getD n 'A'

/-- The six-bit number of a symbol's byte. -/
def sextet? (b : UInt8) : Option Nat :=
  let n := b.toNat
  if 65 ≤ n && n ≤ 90 then some (n - 65)
  else if 97 ≤ n && n ≤ 122 then some (n - 71)
  else if 48 ≤ n && n ≤ 57 then some (n + 4)
  else if n = 45 then some 62
  else if n = 95 then some 63
  else none

/-- Three bytes as four numbers of six bits; one or two bytes at the end are filled up with zeros. -/
def sextets : List UInt8 → List Nat
  | [] => []
  | [a] => [a.toNat / 4, a.toNat % 4 * 16]
  | [a, b] => [a.toNat / 4, a.toNat % 4 * 16 + b.toNat / 16, b.toNat % 16 * 4]
  | a :: b :: c :: bs =>
    a.toNat / 4 :: (a.toNat % 4 * 16 + b.toNat / 16) :: (b.toNat % 16 * 4 + c.toNat / 64) ::
      c.toNat % 64 :: sextets bs

/-- Four numbers of six bits as three bytes; what fills up the last byte is dropped. -/
def octets : List Nat → List UInt8
  | a :: b :: c :: d :: ns =>
    .ofNat (a * 4 + b / 16) :: .ofNat (b % 16 * 16 + c / 4) :: .ofNat (c % 4 * 64 + d) :: octets ns
  | [a, b, c] => [.ofNat (a * 4 + b / 16), .ofNat (b % 16 * 16 + c / 4)]
  | [a, b] => [.ofNat (a * 4 + b / 16)]
  | _ => []

def encode (bs : List UInt8) : List Char := (sextets bs).map symbol

inductive Fault where
  | symbol (byte : UInt8) (offset : Nat)
  | length (n : Nat)
  | lastSymbol (byte : UInt8) (offset : Nat)
  deriving DecidableEq, Repr

def Fault.message : Fault → String
  | symbol b n => "Invalid symbol " ++ toString b.toNat ++ ", offset " ++ toString n ++ "."
  | length n => "Invalid input length: " ++ toString n
  | lastSymbol b n => "Invalid last symbol " ++ toString b.toNat ++ ", offset " ++ toString n ++ "."

/-- The first byte that is no symbol, and its place. -/
def firstForeign? (bs : List UInt8) : Option (UInt8 × Nat) :=
  bs.zipIdx.find? fun p => (sextet? p.1).isNone

def padding : UInt8 := 61

/-- A single byte after the last group of four is looked at first, unless it is padding. -/
def danglingForeign? (bs : List UInt8) : Option UInt8 :=
  if bs.length % 4 = 1 then bs.getLast?.filter fun b => b != padding && (sextet? b).isNone else none

/-- The bits with which the last symbol of a short group fills up its byte. -/
def unusedBits (bs : List UInt8) : Nat :=
  let last := (bs.getLast?.bind sextet?).getD 0
  if bs.length % 4 = 2 then last % 16 else if bs.length % 4 = 3 then last % 4 else 0

def fault? (bs : List UInt8) : Option Fault :=
  match danglingForeign? bs with
  | some b => some (.symbol b (bs.length - 1))
  | none =>
    match firstForeign? bs with
    | some (b, n) => some (.symbol b n)
    | none =>
      if bs.length % 4 = 1 then some (.length bs.length)
      else if unusedBits bs ≠ 0 then some (.lastSymbol (bs.getLast?.getD 0) (bs.length - 1))
      else none

def decode (bs : List UInt8) : Except Fault (List UInt8) :=
  match fault? bs with
  | some f => .error f
  | none => .ok (octets (bs.filterMap sextet?))

end Listing.Base64
