import Spreadsheet.CellName
import Spreadsheet.Decimal.Shortest

/-!
Formulas: token sequences in which operands alternate with operators and parentheses balance. A
formula is written without blanks, and formulas are equal when their tokens are, numbers by value.
-/

namespace Spreadsheet

inductive Token where
  | leftParen
  | rightParen
  | operator (op : Operator)
  | number (literal : String) (value : Float)
  | variable (name : String)
  deriving Inhabited

namespace Token

def text : Token → String
  | .leftParen => "("
  | .rightParen => ")"
  | .operator op => String.singleton op.symbol
  | .number literal _ => literal
  | .variable name => name

def opensOperand : Token → Bool
  | .leftParen | .number .. | .variable _ => true
  | .rightParen | .operator _ => false

def closesOperand : Token → Bool
  | .rightParen | .number .. | .variable _ => true
  | .leftParen | .operator _ => false

def opening : Token → Nat
  | .leftParen => 1
  | _ => 0

def closing : Token → Nat
  | .rightParen => 1
  | _ => 0

def reference? : Token → Option String
  | .variable name => some name
  | _ => none

def beq : Token → Token → Bool
  | .leftParen, .leftParen | .rightParen, .rightParen => true
  | .operator a, .operator b => a == b
  | .number _ x, .number _ y => x == y
  | .variable a, .variable b => a == b
  | _, _ => false

instance : BEq Token := ⟨beq⟩

protected def hash : Token → UInt64
  | .leftParen => 1
  | .rightParen => 2
  | .operator op => mixHash 3 op.symbol.toNat.toUInt64
  | .number _ x => mixHash 4 (x + 0).toBits
  | .variable name => mixHash 5 (hash name)

instance : Hashable Token := ⟨Token.hash⟩

end Token

inductive FormatError where
  | empty
  | invalidToken (text : String)
  | invalidVariable (name : String)
  | invalidStart (token : String)
  | invalidEnd (token : String)
  | unmatchedClose (position : Nat)
  | expectedOperand (after found : String)
  | expectedOperator (after found : String)
  | unbalanced (opened closed : Nat)
  deriving DecidableEq, Repr

def FormatError.message : FormatError → String
  | empty => "formula cannot be empty"
  | invalidToken text =>
    "invalid token `" ++ text ++ "`: expected a number, variable, operator or parenthesis"
  | invalidVariable name => "variable `" ++ name ++ "` is not a valid cell name"
  | invalidStart token =>
    "formula cannot begin with `" ++ token ++
      "`; it must begin with a number, variable or `(`"
  | invalidEnd token =>
    "formula cannot end with `" ++ token ++ "`; it must end with a number, variable or `)`"
  | unmatchedClose position => "`)` at token " ++ toString position ++ " has no matching `(`"
  | expectedOperand after found =>
    "expected a number, variable or `(` after `" ++ after ++ "`, found `" ++ found ++ "`"
  | expectedOperator after found =>
    "expected an operator or `)` after `" ++ after ++ "`, found `" ++ found ++ "`"
  | unbalanced opened closed =>
    "unbalanced parentheses: " ++ toString opened ++ " opening, " ++ toString closed ++
      " closing"

namespace Formula

structure Checked where
  last : Option Token
  length : Nat
  opened : Nat
  closed : Nat

namespace Checked

def start : Checked := ⟨none, 0, 0, 0⟩

def push (c : Checked) (t : Token) : Checked :=
  ⟨some t, c.length + 1, c.opened + t.opening, c.closed + t.closing⟩

def misplaced? (c : Checked) (t : Token) : Option FormatError :=
  match c.last with
  | none => none
  | some last =>
    if last.closesOperand then
      if t.opensOperand then some (.expectedOperator last.text t.text) else none
    else if t.opensOperand then none
    else some (.expectedOperand last.text t.text)

def fault? (c : Checked) (t : Token) (final : Bool) : Option FormatError :=
  if c.last.isNone && !t.opensOperand then some (.invalidStart t.text)
  else if final && !t.closesOperand then some (.invalidEnd t.text)
  else if (c.push t).opened < (c.push t).closed then some (.unmatchedClose (c.length + 1))
  else c.misplaced? t

def finish (c : Checked) : Except FormatError Unit :=
  if c.opened = c.closed then .ok () else .error (.unbalanced c.opened c.closed)

end Checked

def checkFrom (c : Checked) : List Token → Except FormatError Unit
  | [] => c.finish
  | t :: ts =>
    match c.fault? t ts.isEmpty with
    | some e => .error e
    | none => checkFrom (c.push t) ts

def check (ts : List Token) : Except FormatError Unit :=
  if ts.isEmpty then .error .empty else checkFrom .start ts

end Formula

structure Formula where
  tokens : List Token
  valid : Formula.check tokens = .ok ()

namespace Formula

def written (ts : List Token) : String := String.ofList (ts.flatMap fun t => t.text.toList)

def canonical (f : Formula) : String := written f.tokens

def variableNames (f : Formula) : List String := (f.tokens.filterMap Token.reference?).eraseDups

instance : BEq Formula := ⟨fun f g => f.tokens == g.tokens⟩

instance : Hashable Formula := ⟨fun f => hash f.tokens⟩

def ofTokens (ts : List Token) : Except FormatError Formula :=
  match h : check ts with
  | .ok () => .ok ⟨ts, h⟩
  | .error e => .error e

end Formula

def Token.ofLexeme (resolve : String → Option String) (l : Lexeme) : Except FormatError Token :=
  let text := String.ofList l.text
  match l.kind with
  | .leftParen => .ok .leftParen
  | .rightParen => .ok .rightParen
  | .operator op => .ok (.operator op)
  | .variable =>
    match resolve text with
    | some name => .ok (.variable name)
    | none => .error (.invalidVariable text)
  | .number =>
    match Decimal.readNumber? text with
    | some value => .ok (.number text value)
    | none => .error (.invalidToken text)
  | .invalid => .error (.invalidToken text)

namespace Formula

def parseWith (resolve : String → Option String) (text : String) : Except FormatError Formula :=
  match (tokenize text).mapM (Token.ofLexeme resolve) with
  | .ok ts => ofTokens ts
  | .error e => .error e

def parse (text : String) : Except FormatError Formula := parseWith some text

def parseWithRules (rules : NameRules) (text : String) : Except FormatError Formula :=
  parseWith rules.resolve text

end Formula

end Spreadsheet
