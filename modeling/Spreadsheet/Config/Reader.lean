import Spreadsheet.Config.Basic
import Spreadsheet.Config.Statement

namespace Spreadsheet.Config

inductive Choice where
  | unmade
  | pending
  | made (spelling : Spelling) (reopens : Bool)
  deriving DecidableEq, Repr

namespace Choice

def choose (choice : Choice) (text : String) (byHeader : Bool) : Option Choice :=
  match choice with
  | unmade => (Spelling.ofText? text).map fun spelling => made spelling byHeader
  | pending => (Spelling.ofText? text).map fun spelling => made spelling false
  | made _ _ => none

def openTable : Choice → Option Choice
  | unmade => some pending
  | made spelling true => some (made spelling false)
  | _ => none

def spelling? : Choice → Option Spelling
  | unmade => some standard.spelling
  | pending => none
  | made spelling _ => some spelling

end Choice

structure Draft where
  table : List String
  version? : Option String
  choice : Choice
  maxRow? : Option Nat
  deriving DecidableEq, Repr

namespace Draft

def blank : Draft := ⟨[], none, .unmade, none⟩

def withChoice (draft : Draft) (choice : Choice) : Draft := { draft with choice := choice }

def assign (draft : Draft) : List String → Setting → Option Draft
  | ["version"], .text text =>
    if draft.version?.isSome then none else some { draft with version? := some text }
  | ["max_row"], .integer n =>
    if draft.maxRow?.isSome ∨ n < 0 then none else some { draft with maxRow? := some n.toNat }
  | ["normalize"], .text text | ["normalize", text], .empty =>
    (draft.choice.choose text false).map draft.withChoice
  | _, _ => none

def enter (draft : Draft) (path : List String) : Option Draft :=
  let inside := { draft with table := path }
  match path with
  | ["normalize"] => draft.choice.openTable.map inside.withChoice
  | ["normalize", text] => (draft.choice.choose text true).map inside.withChoice
  | _ => none

def step (draft : Draft) : Statement → Option Draft
  | .table path => draft.enter path
  | .assign path setting => draft.assign (draft.table ++ path) setting

def finish (draft : Draft) : Option Config :=
  draft.choice.spelling?.map fun spelling => ⟨draft.version?, spelling, draft.maxRow?⟩

end Draft

def ofStatements (statements : List Statement) : Option Config :=
  (statements.foldlM Draft.step .blank).bind Draft.finish

def withoutMark : List Char → List Char
  | '\uFEFF' :: cs => cs
  | cs => cs

def read (cs : List Char) : Option Config := (Statement.readAll (withoutMark cs)).bind ofStatements

def parse (text : String) : Option Config := read text.toList

end Spreadsheet.Config
