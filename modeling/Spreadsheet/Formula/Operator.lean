namespace Spreadsheet

inductive Operator where
  | add
  | sub
  | mul
  | div
  deriving DecidableEq, Repr

namespace Operator

def symbol : Operator → Char
  | add => '+'
  | sub => '-'
  | mul => '*'
  | div => '/'

def ofSymbol? (c : Char) : Option Operator :=
  if c = '+' then some add
  else if c = '-' then some sub
  else if c = '*' then some mul
  else if c = '/' then some div
  else none

def isMultiplicative : Operator → Bool
  | mul | div => true
  | add | sub => false

def isAdditive (op : Operator) : Bool := !op.isMultiplicative

theorem isMultiplicative_iff {op : Operator} :
    op.isMultiplicative = true ↔ op = mul ∨ op = div := by
  cases op <;> simp [isMultiplicative]

theorem isAdditive_iff {op : Operator} : op.isAdditive = true ↔ op = add ∨ op = sub := by
  cases op <;> simp [isAdditive, isMultiplicative]

theorem isMultiplicative_eq_false {op : Operator} (h : op.isAdditive = true) :
    op.isMultiplicative = false := by
  simpa [isAdditive] using h

def apply : Operator → Float → Float → Float
  | add, x, y => x + y
  | sub, x, y => x - y
  | mul, x, y => x * y
  | div, x, y => x / y

end Operator

end Spreadsheet
