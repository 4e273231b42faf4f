/-!
Finite doubles as bit patterns. Sign apart, a pattern is the place of a value among all values, so
rounding a quotient to the nearest double is one rounded division in units of its last place.
-/

namespace Spreadsheet.Decimal

def roundDiv (n d : Nat) : Nat :=
  let q := n / d
  let r := n % d
  if 2 * r < d ∨ 2 * r = d ∧ q % 2 = 0 then q else q + 1

def binaryExponent (n d : Nat) : Int :=
  let e : Int := n.log2 - d.log2
  if d * Nat.pow 2 e.toNat ≤ n * Nat.pow 2 (-e).toNat then e else e - 1

def lastPlace (n d : Nat) : Int := max (binaryExponent n d - 52) (-1074)

def infinityBits : Nat := 0x7FF0000000000000

def nearestBits (n d : Nat) : Nat :=
  let q := lastPlace n d
  let rounded := roundDiv (n * Nat.pow 2 (-q).toNat) (d * Nat.pow 2 q.toNat)
  min infinityBits ((q + 1074).toNat * Nat.pow 2 52 + rounded)

structure Dyadic where
  significand : Nat
  exponent : Int

def Dyadic.ofBits (bits : Nat) : Dyadic :=
  let field : Nat := bits / Nat.pow 2 52
  let fraction := bits % Nat.pow 2 52
  if field = 0 then ⟨fraction, -1074⟩ else ⟨Nat.pow 2 52 + fraction, (field : Int) - 1075⟩

def Dyadic.numerator (x : Dyadic) : Nat := x.significand * Nat.pow 2 x.exponent.toNat

def Dyadic.denominator (x : Dyadic) : Nat := Nat.pow 2 (-x.exponent).toNat

def signBit : Nat := 0x8000000000000000

def ofSignAndBits (negative : Bool) (bits : Nat) : Float :=
  Float.ofBits (UInt64.ofNat (if negative then signBit + bits else bits))

end Spreadsheet.Decimal
