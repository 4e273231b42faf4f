import Spreadsheet.Formula.Evaluation

namespace Spreadsheet

inductive Contents where
  | text (text : String)
  | number (value : Float)
  | formula (formula : Formula)

namespace Contents

def empty : Contents := .text ""

instance : Inhabited Contents := ⟨empty⟩

def isBlank : Contents → Bool
  | .text s => Text.isBlankText s
  | _ => false

def inputText : Contents → String
  | .text s => s
  | .number x => Decimal.numberText x
  | .formula f => "=" ++ f.canonical

def formula? : Contents → Option Formula
  | .formula f => some f
  | _ => none

def references : Contents → List String
  | .formula f => f.variableNames
  | _ => []

def ofInput (rules : NameRules) (input : String) : Except FormatError Contents :=
  let trimmed := Text.trimmed input
  match (Decimal.readNumber? trimmed).filter Float.isFinite with
  | some x => .ok (.number x)
  | none =>
    match trimmed.toList with
    | '=' :: cs => (Formula.parseWithRules rules (String.ofList cs)).map .formula
    | _ => .ok (.text input)

end Contents

inductive Value where
  | text (text : String)
  | number (value : Float)
  | error (fault : Fault)

namespace Value

def empty : Value := .text ""

instance : Inhabited Value := ⟨empty⟩

def number? : Value → Option Float
  | .number x => some x
  | _ => none

def display : Value → String
  | .text s => s
  | .number x => Decimal.numberText x
  | .error fault => fault.message

def ofResult : Except Fault Float → Value
  | .ok x => .number x
  | .error fault => .error fault

end Value

def Contents.value (contents : Contents) (lookup : String → Option Float) : Value :=
  match contents with
  | .text s => .text s
  | .number x => .number x
  | .formula f => Value.ofResult (f.evaluate lookup)

structure Cell where
  contents : Contents
  value : Value
  deriving Inhabited

/-- The non-empty cells of a document, in the order in which they became non-empty. -/
abbrev Cells := List (String × Cell)

namespace Cells

def get? (cells : Cells) (name : String) : Option Cell := cells.lookup name

def names (cells : Cells) : List String := cells.map Prod.fst

def put (cells : Cells) (name : String) (cell : Cell) : Cells :=
  match cells with
  | [] => [(name, cell)]
  | entry :: cells =>
    if entry.1 = name then (name, cell) :: cells else entry :: put cells name cell

def erase (cells : Cells) (name : String) : Cells := cells.filter fun entry => entry.1 ≠ name

def number? (cells : Cells) (name : String) : Option Float :=
  (cells.get? name).bind fun cell => cell.value.number?

def recalculate (cells : Cells) (name : String) : Cells :=
  match cells.get? name with
  | some ⟨.formula f, _⟩ =>
    cells.put name ⟨.formula f, Value.ofResult (f.evaluate cells.number?)⟩
  | _ => cells

end Cells

end Spreadsheet
