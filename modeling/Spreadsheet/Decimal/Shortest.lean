import Spreadsheet.Decimal.Numeral

/-!
The text of a number: the fewest digits that read back as the same double, the nearest such digits
to it, and never an exponent.
-/

namespace Spreadsheet.Decimal

def decimalExponent (n d : Nat) : Int :=
  if d ≤ n then (Nat.toDigits 10 (n / d)).length - 1
  else -(Nat.toDigits 10 ((d - 1) / n)).length

def neighbours (n d : Nat) (place : Int) : List Numeral :=
  let n := n * Nat.pow 10 (-place).toNat
  let d := d * Nat.pow 10 place.toNat
  let below : Numeral := ⟨n / d, place⟩
  let above : Numeral := ⟨n / d + 1, place⟩
  if 2 * (n % d) < d then [below, above] else [above, below]

def Dyadic.expand (x : Dyadic) : Numeral :=
  if 0 ≤ x.exponent then ⟨x.numerator, 0⟩
  else ⟨x.significand * Nat.pow 5 (-x.exponent).toNat, x.exponent⟩

def shortest (bits : Nat) : Numeral :=
  let x := Dyadic.ofBits bits
  let k := decimalExponent x.numerator x.denominator
  let found := (List.range 17).findSome? fun (i : Nat) =>
    (neighbours x.numerator x.denominator (k - i)).find? fun y => decide (y.bits = bits)
  if bits = 0 then ⟨0, 0⟩ else found.getD x.expand

def fractionText (places n : Nat) : List Char :=
  let digits := (Nat.toDigits 10 n).leftpad places '0'
  match (digits.reverse.dropWhile (· = '0')).reverse with
  | [] => []
  | ds => '.' :: ds

def Numeral.text (x : Numeral) : List Char :=
  if 0 ≤ x.exponent then Nat.toDigits 10 (x.digits * Nat.pow 10 x.exponent.toNat)
  else
    let places := (-x.exponent).toNat
    let unit := Nat.pow 10 places
    Nat.toDigits 10 (x.digits / unit) ++ fractionText places (x.digits % unit)

def text (x : Float) : List Char :=
  let bits := x.toBits.toNat
  let sign := if signBit ≤ bits then ['-'] else []
  let magnitude := bits % signBit
  if infinityBits < magnitude then "NaN".toList
  else if magnitude = infinityBits then sign ++ "inf".toList
  else sign ++ (shortest magnitude).text

def numberText (x : Float) : String := String.ofList (text x)

end Spreadsheet.Decimal
