import Spreadsheet.Formula.Evaluation

namespace Spreadsheet

inductive Expr where
  | number (literal : String) (value : Float)
  | variable (name : String)
  | binary (op : Operator) (left right : Expr)

namespace Expr

def eval (lookup : String → Option Float) : Expr → Except Fault Float
  | .number _ x => .ok x
  | .variable name =>
    match lookup name with
    | some x => .ok x
    | none => .error (.undefinedVariable name)
  | .binary op left right =>
    match left.eval lookup with
    | .error fault => .error fault
    | .ok x =>
      match right.eval lookup with
      | .error fault => .error fault
      | .ok y =>
        match op with
        | .add => .ok (x + y)
        | .sub => .ok (x - y)
        | .mul => .ok (x * y)
        | .div => if (y == 0) = true then .error .divideByZero else .ok (x / y)

end Expr

namespace Grammar

inductive Level where
  | sum
  | product
  | factor
  deriving DecidableEq, Repr

inductive Derives : Level → List Token → Expr → Prop where
  | number (literal : String) (value : Float) :
    Derives .factor [.number literal value] (.number literal value)
  | variable (name : String) : Derives .factor [.variable name] (.variable name)
  | paren {ts : List Token} {e : Expr} (h : Derives .sum ts e) :
    Derives .factor (.leftParen :: ts ++ [.rightParen]) e
  | factor {ts : List Token} {e : Expr} (h : Derives .factor ts e) : Derives .product ts e
  | times {ts us : List Token} {op : Operator} {a b : Expr} (ha : Derives .product ts a)
    (hop : op = .mul ∨ op = .div) (hb : Derives .factor us b) :
    Derives .product (ts ++ .operator op :: us) (.binary op a b)
  | product {ts : List Token} {e : Expr} (h : Derives .product ts e) : Derives .sum ts e
  | plus {ts us : List Token} {op : Operator} {a b : Expr} (ha : Derives .sum ts a)
    (hop : op = .add ∨ op = .sub) (hb : Derives .product us b) :
    Derives .sum (ts ++ .operator op :: us) (.binary op a b)

end Grammar

end Spreadsheet
