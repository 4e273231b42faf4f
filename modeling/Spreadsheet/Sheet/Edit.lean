import Spreadsheet.Sheet.Basic

/-!
Edits of a sheet. An edit puts the references of the new contents into the graph and recalculates
what depends on the cell; if they would close a cycle, the former references are put back. A check
always puts them back.
-/

namespace Spreadsheet.Sheet

def rewire (g : Graph) (name : String) (names : List String) :
    Graph × Except Cycle (List String) :=
  let g := g.replaceDependees name names
  (g, g.recalculationOrder name)

def store (cells : Cells) (name : String) (cell : Cell) : Cells :=
  if cell.contents.isBlank then cells.erase name else cells.put name cell

def replace (s : Sheet) (name : String) (contents : Contents) :
    Except EditError (List String) × Sheet :=
  let former := s.graph.dependees name
  match rewire s.graph name contents.references with
  | (graph, .error cycle) =>
    (.error (.circular name cycle), { s with graph := graph.replaceDependees name former })
  | (graph, .ok order) =>
    let cells := store s.cells name ⟨contents, contents.value s.cells.number?⟩
    let cells := order.tail.foldl Cells.recalculate cells
    (.ok order, { s with cells := cells, graph := graph, changed := true })

def interpret (s : Sheet) (name input : String) : Except EditError (String × Contents) :=
  match s.resolve name with
  | .error e => .error e
  | .ok name =>
    match Contents.ofInput s.rules input with
    | .error e => .error (.invalidFormula e)
    | .ok contents => .ok (name, contents)

def set (s : Sheet) (name input : String) : Except EditError (List String) × Sheet :=
  match s.interpret name input with
  | .error e => (.error e, s)
  | .ok (name, contents) => s.replace name contents

def setFormula (s : Sheet) (name : String) (f : Formula) : Except EditError (List String) × Sheet :=
  match s.resolve name with
  | .error e => (.error e, s)
  | .ok name =>
    match Formula.parseWithRules s.rules f.canonical with
    | .error e => (.error (.invalidFormula e), s)
    | .ok f => s.replace name (.formula f)

def tryFormula (s : Sheet) (name : String) (f : Formula) : Except EditError Unit × Sheet :=
  let former := s.graph.dependees name
  let (graph, order) := rewire s.graph name f.variableNames
  let s := { s with graph := graph.replaceDependees name former }
  match order with
  | .ok _ => (.ok (), s)
  | .error cycle => (.error (.circular name cycle), s)

def check (s : Sheet) (name input : String) : Except EditError Unit × Sheet :=
  match s.interpret name input with
  | .error e => (.error e, s)
  | .ok (name, .formula f) => s.tryFormula name f
  | .ok _ => (.ok (), s)

end Spreadsheet.Sheet
