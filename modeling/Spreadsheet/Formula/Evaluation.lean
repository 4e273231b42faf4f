import Spreadsheet.Formula.Basic

/-!
Evaluation with one stack of values and one of operators, in one pass from left to right: a product
is formed as soon as its right operand is known, a sum when the next sum, a closing parenthesis or
the end is reached.
-/

namespace Spreadsheet

inductive Fault where
  | undefinedVariable (name : String)
  | divideByZero
  | emptyExpression
  | malformed
  deriving DecidableEq, Repr

def Fault.message : Fault → String
  | undefinedVariable name => "#VALUE! cannot find a numeric value for " ++ name
  | divideByZero => "#DIV/0! cannot divide by zero"
  | emptyExpression => "#ERROR! cannot evaluate an empty expression"
  | malformed => "#ERROR! cannot evaluate expression"

def Operator.combine (op : Operator) (x y : Float) : Except Fault Float :=
  if op = .div ∧ (y == 0) = true then .error .divideByZero else .ok (op.apply x y)

namespace Evaluation

inductive Pending where
  | paren
  | operator (op : Operator)
  deriving DecidableEq, Repr

structure Stacks where
  values : List Float
  pending : List Pending

namespace Stacks

def empty : Stacks := ⟨[], []⟩

def topOperator? (s : Stacks) (p : Operator → Bool) : Option Operator :=
  match s.pending with
  | .operator op :: _ => if p op then some op else none
  | _ => none

def applyTo (s : Stacks) (op : Operator) (y : Float) : Except Fault Stacks :=
  match s.values with
  | x :: values => (op.combine x y).map fun z => ⟨z :: values, s.pending.tail⟩
  | [] => .error .malformed

def apply (s : Stacks) (op : Operator) : Except Fault Stacks :=
  match s.values with
  | y :: values => applyTo ⟨values, s.pending⟩ op y
  | [] => .error .malformed

def applyIf (s : Stacks) (p : Operator → Bool) : Except Fault Stacks :=
  match s.topOperator? p with
  | some op => s.apply op
  | none => .ok s

def pushOperator (s : Stacks) (op : Operator) : Stacks :=
  ⟨s.values, .operator op :: s.pending⟩

def pushValue (s : Stacks) (x : Float) : Except Fault Stacks :=
  match s.topOperator? Operator.isMultiplicative with
  | some op => s.applyTo op x
  | none => .ok ⟨x :: s.values, s.pending⟩

def close (s : Stacks) : Except Fault Stacks :=
  match s.pending with
  | .paren :: pending => applyIf ⟨s.values, pending⟩ Operator.isMultiplicative
  | _ => .error .malformed

def step (lookup : String → Option Float) (s : Stacks) : Token → Except Fault Stacks
  | .leftParen => .ok ⟨s.values, .paren :: s.pending⟩
  | .rightParen => (s.applyIf Operator.isAdditive).bind close
  | .operator op =>
    if op.isMultiplicative then .ok (s.pushOperator op)
    else (s.applyIf Operator.isAdditive).map (·.pushOperator op)
  | .number _ x => s.pushValue x
  | .variable name =>
    match lookup name with
    | some x => s.pushValue x
    | none => .error (.undefinedVariable name)

def result (s : Stacks) : Except Fault Float :=
  let last := if s.pending.length = 1 ∧ s.values.length = 2 then s.applyIf Operator.isAdditive
    else .ok s
  match last with
  | .ok ⟨[x], []⟩ => .ok x
  | .ok _ => .error .malformed
  | .error e => .error e

end Stacks

def run (lookup : String → Option Float) (s : Stacks) : List Token → Except Fault Float
  | [] => s.result
  | t :: ts =>
    match s.step lookup t with
    | .ok s => run lookup s ts
    | .error e => .error e

end Evaluation

def evaluateTokens (lookup : String → Option Float) (ts : List Token) : Except Fault Float :=
  if ts.isEmpty then .error .emptyExpression else Evaluation.run lookup .empty ts

def Formula.evaluate (f : Formula) (lookup : String → Option Float) : Except Fault Float :=
  evaluateTokens lookup f.tokens

end Spreadsheet
