import Spreadsheet.Files.Basic
import Spreadsheet.Files.Path

/-!
A tree of files and directories held in memory. Paths lead from a working directory, or from the
root if they begin with a slash.
-/

namespace Spreadsheet

inductive FileTree.Entry where
  | file (bytes : ByteArray)
  | directory

abbrev FileTree.Place := List String

structure FileTree where
  entries : List (FileTree.Place × FileTree.Entry)
  working : FileTree.Place

namespace FileTree

def fresh : FileTree := ⟨[(["work"], .directory)], ["work"]⟩

instance : Inhabited FileTree := ⟨fresh⟩

def entry? (tree : FileTree) (place : Place) : Option Entry :=
  if place.isEmpty then some .directory else tree.entries.lookup place

def put (tree : FileTree) (place : Place) (entry : Entry) : FileTree :=
  { tree with entries := (place, entry) :: tree.entries.filter fun e => e.1 ≠ place }

structure Target where
  place : Place
  slash : Bool

def maxNameBytes : Nat := 255

def maxPathBytes : Nat := 4095

def enter (tree : FileTree) (place : Place) (segment : List Char) : Except FileError Place :=
  if Path.isIdle segment then .ok place
  else if segment = ['.', '.'] then .ok place.tail
  else
    let name := String.ofList segment
    if maxNameBytes < name.utf8ByteSize then .error .nameTooLong
    else
      match tree.entry? (name :: place) with
      | some .directory => .ok (name :: place)
      | some (.file _) => .error .notDirectory
      | none => .error .notFound

def arrive (place : Place) (segment : List Char) : Except FileError Place :=
  if Path.isIdle segment then .ok place
  else if segment = ['.', '.'] then .ok place.tail
  else
    let name := String.ofList segment
    if maxNameBytes < name.utf8ByteSize then .error .nameTooLong else .ok (name :: place)

def target (tree : FileTree) (path : String) : Except FileError Target :=
  let cs := path.toList
  if cs.contains '\x00' then .error .nulInName
  else if maxPathBytes < path.utf8ByteSize then .error .nameTooLong
  else if cs.isEmpty then .error .notFound
  else
    let origin := if cs.head? = some '/' then [] else tree.working
    let steps := (Path.segments cs).filter fun segment => !segment.isEmpty
    let slash := cs.getLast? = some '/'
    match steps.getLast? with
    | none => .ok ⟨origin, slash⟩
    | some last =>
      match steps.dropLast.foldlM tree.enter origin with
      | .ok place => (arrive place last).map fun place => ⟨place, slash⟩
      | .error e => .error e

def find (tree : FileTree) (path : String) : Except FileError Entry :=
  match tree.target path with
  | .error e => .error e
  | .ok ⟨place, slash⟩ =>
    match tree.entry? place with
    | none => .error .notFound
    | some .directory => .ok .directory
    | some (.file bytes) => if slash then .error .notDirectory else .ok (.file bytes)

def read (tree : FileTree) (path : String) : Except FileError ByteArray :=
  match tree.find path with
  | .ok (.file bytes) => .ok bytes
  | .ok .directory => .error .isDirectory
  | .error e => .error e

def write (tree : FileTree) (path : String) (bytes : ByteArray) : Except FileError FileTree :=
  match tree.target path with
  | .error e => .error e
  | .ok ⟨place, slash⟩ =>
    match tree.entry? place with
    | some .directory => .error .isDirectory
    | _ => if slash then .error .isDirectory else .ok (tree.put place (.file bytes))

def directorySize : Nat := 4096

def size? (tree : FileTree) (path : String) : Option Nat :=
  match tree.find path with
  | .ok (.file bytes) => some bytes.size
  | .ok .directory => some directorySize
  | .error _ => none

instance : Files (StateM FileTree) where
  readBytes path := do return (← get).read path
  writeText path text := do
    match (← get).write path text.toUTF8 with
    | .ok tree =>
      set tree
      return .ok ()
    | .error e => return .error e
  size? path := do return (← get).size? path

end FileTree

end Spreadsheet
