import Spreadsheet.Sheet.Basic

namespace Spreadsheet.Meaning

def number? (values : String → Option Value) (name : String) : Option Float :=
  match values name with
  | some (.number x) => some x
  | _ => none

def value (values : String → Option Value) : Contents → Value
  | .text s => .text s
  | .number x => .number x
  | .formula f =>
    match f.evaluate (number? values) with
    | .ok x => .number x
    | .error fault => .error fault

def Solves (contents : String → Option Contents) (values : String → Option Value) : Prop :=
  ∀ name, values name = (contents name).map (value values)

end Spreadsheet.Meaning

namespace Spreadsheet.Sheet

def storedContents (s : Sheet) (name : String) : Option Contents :=
  (s.cells.get? name).map Cell.contents

def storedValue (s : Sheet) (name : String) : Option Value := (s.cells.get? name).map Cell.value

end Spreadsheet.Sheet
