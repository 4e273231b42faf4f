import Spreadsheet.Cell
import Spreadsheet.Graph.Recalculation

namespace Spreadsheet

inductive EditError where
  | invalidName (name : String)
  | invalidFormula (error : FormatError)
  | circular (cell : String) (cycle : Cycle)
  deriving DecidableEq, Repr

def EditError.message : EditError → String
  | invalidName name => "invalid cell name `" ++ name ++ "`"
  | invalidFormula error => "invalid formula: " ++ error.message
  | circular cell cycle => "setting " ++ cell ++ " would create a " ++ cycle.message

structure Sheet where
  cells : Cells
  /-- The pairs `(s, t)` such that the formula of `t` refers to `s`. -/
  graph : Graph
  rules : NameRules
  version : String
  changed : Bool

namespace Sheet

def empty (rules : NameRules) (version : String) : Sheet := ⟨[], .empty, rules, version, false⟩

instance : Inhabited Sheet := ⟨empty .standard "1.0"⟩

def resolve (s : Sheet) (name : String) : Except EditError String :=
  match s.rules.resolve name with
  | some name => .ok name
  | none => .error (.invalidName name)

def names (s : Sheet) : List String := s.cells.names

def cell (s : Sheet) (name : String) : Cell := (s.cells.get? name).getD ⟨.empty, .empty⟩

def contents (s : Sheet) (name : String) : Except EditError Contents :=
  (s.resolve name).map fun name => (s.cell name).contents

def value (s : Sheet) (name : String) : Except EditError Value :=
  (s.resolve name).map fun name => (s.cell name).value

def directDependents (s : Sheet) (name : String) : Except EditError (List String) :=
  (s.resolve name).map s.graph.dependents

end Sheet

end Spreadsheet
