import Std.Data.TreeMap
import Spreadsheet.Sheet.Storage

/-!
The cells of a sheet as a map, and a list of their names that is kept beside it. A name joins the
list at its end when its cell first has contents, and leaves it when the cell is cleared. A moment
is a sheet with the store that has gone through the same edits.
-/

namespace Spreadsheet

structure Store where
  cells : Std.TreeMap String Cell
  listed : List String

namespace Store

def empty : Store := ⟨∅, []⟩

instance : Inhabited Store := ⟨empty⟩

def number? (store : Store) (name : String) : Option Float :=
  store.cells[name]?.bind fun cell => cell.value.number?

def remove (store : Store) (name : String) : Store :=
  if name ∈ store.cells then
    ⟨store.cells.erase name, store.listed.filter (· ≠ name)⟩
  else store

def insert (store : Store) (name : String) (cell : Cell) : Store :=
  ⟨store.cells.insert name cell,
    if name ∈ store.cells then store.listed else store.listed ++ [name]⟩

def recalculate (store : Store) (name : String) : Store :=
  match store.cells[name]? with
  | some ⟨.formula f, _⟩ =>
    ⟨store.cells.insert name ⟨.formula f, Value.ofResult (f.evaluate store.number?)⟩,
      store.listed⟩
  | _ => store

def edit (store : Store) (name : String) (contents : Contents) (order : List String) : Store :=
  let cell : Cell := ⟨contents, contents.value store.number?⟩
  let store := if contents.isBlank then store.remove name else store.insert name cell
  order.tail.foldl recalculate store

end Store

structure Moment where
  sheet : Sheet
  store : Store

namespace Moment

open Sheet

def start (rules : NameRules) (version : String) : Moment := ⟨.empty rules version, .empty⟩

def replace (m : Moment) (name : String) (contents : Contents) : Moment :=
  match m.sheet.replace name contents with
  | (.ok order, s) => ⟨s, m.store.edit name contents order⟩
  | (.error _, s) => ⟨s, m.store⟩

def set (m : Moment) (name input : String) : Moment :=
  match m.sheet.interpret name input with
  | .ok (name, contents) => m.replace name contents
  | .error _ => m

def setFormula (m : Moment) (name : String) (f : Formula) : Moment :=
  match m.sheet.resolve name, Formula.parseWithRules m.sheet.rules f.canonical with
  | .ok name, .ok f => m.replace name (.formula f)
  | _, _ => m

def replay (m : Moment) (past : List Moment) : List Record → Moment × List Moment
  | [] => (m, past)
  | record :: records => replay (m.set record.name record.contents) (m :: past) records

def load (m : Moment) (past : List Moment) (text : Except StorageError String) :
    Moment × List Moment :=
  match text.bind parseDocument with
  | .error _ => (m, past)
  | .ok document =>
    match ofRecords m.sheet.rules m.sheet.version document.records with
    | .error _ => (m, past)
    | .ok s =>
      let (last, past) :=
        (start m.sheet.rules m.sheet.version).replay (m :: past) document.records
      (⟨s, last.store⟩, last :: past)

def filledFor (name : String) (moments : List Moment) : Nat :=
  (moments.takeWhile fun m => m.store.cells.contains name).length

end Moment

end Spreadsheet
