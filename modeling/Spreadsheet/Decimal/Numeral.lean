import Spreadsheet.Decimal.Binary64

namespace Spreadsheet.Decimal

structure Numeral where
  digits : Nat
  exponent : Int
  deriving DecidableEq, Repr

/-- The two guards keep the powers of ten small: `8 ^ e` bounds `10 ^ e` from below for `0 ≤ e` and
from above for `e < 0`, so beyond them the nearest double is known. -/
def Numeral.bits (x : Numeral) : Nat :=
  let size : Int := x.digits.log2 + 3 * x.exponent
  if x.digits = 0 then 0
  else if 0 ≤ x.exponent ∧ 1024 ≤ size then infinityBits
  else if x.exponent < 0 ∧ size ≤ -1076 then 0
  else nearestBits (x.digits * Nat.pow 10 x.exponent.toNat) (Nat.pow 10 (-x.exponent).toNat)

def readDigits? (cs : List Char) : Option Nat :=
  if cs ≠ [] ∧ cs.all Char.isDigit then some (Nat.ofDigitChars 10 cs 0) else none

def readInt? : List Char → Option Int
  | '-' :: cs => (readDigits? cs).map fun n => -(n : Int)
  | '+' :: cs => (readDigits? cs).map fun n => (n : Int)
  | cs => (readDigits? cs).map fun n => (n : Int)

def readExponent? : List Char → Option Int
  | [] => some 0
  | c :: cs => if c = 'e' ∨ c = 'E' then readInt? cs else none

def splitPoint (cs : List Char) : List Char × List Char × List Char :=
  let whole := cs.takeWhile Char.isDigit
  match cs.dropWhile Char.isDigit with
  | '.' :: r => (whole, r.takeWhile Char.isDigit, r.dropWhile Char.isDigit)
  | r => (whole, [], r)

def Numeral.read? (cs : List Char) : Option Numeral :=
  let (whole, fraction, rest) := splitPoint cs
  if whole = [] ∧ fraction = [] then none
  else (readExponent? rest).map fun e =>
    ⟨Nat.ofDigitChars 10 (whole ++ fraction) 0, e - fraction.length⟩

def readMagnitude? (negative : Bool) (cs : List Char) : Option Float :=
  let word := String.ofList (cs.map Char.toLower)
  if word = "inf" ∨ word = "infinity" then some (ofSignAndBits negative infinityBits)
  else if word = "nan" then some (Float.ofBits 0x7FF8000000000000)
  else (Numeral.read? cs).map fun x => ofSignAndBits negative x.bits

def read? : List Char → Option Float
  | '-' :: cs => readMagnitude? true cs
  | '+' :: cs => readMagnitude? false cs
  | cs => readMagnitude? false cs

def readNumber? (s : String) : Option Float := read? s.toList

end Spreadsheet.Decimal
