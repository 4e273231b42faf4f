import Spreadsheet.Graph.Recalculation

/-!
The dependency graph with its names and its sets in arrays of their own, and every access checked: a
place outside an array, a count below zero and a slot that is given up twice are faults.
-/

namespace Spreadsheet

inductive ArenaFault where
  | outOfRange (i : Nat)
  | belowZero
  | freedTwice (i : Nat)
  deriving DecidableEq, Repr

namespace Checked

def read {α : Type} (xs : Array α) (i : Nat) : Except ArenaFault α :=
  match xs[i]? with
  | some x => .ok x
  | none => .error (.outOfRange i)

def write {α : Type} (xs : Array α) (i : Nat) (x : α) : Except ArenaFault (Array α) :=
  if i < xs.size then .ok (xs.setIfInBounds i x) else .error (.outOfRange i)

def pred : Nat → Except ArenaFault Nat
  | 0 => .error .belowZero
  | n + 1 => .ok n

end Checked

structure Arena where
  names : Array String
  dependents : Array SlotSet
  dependees : Array SlotSet
  index : Std.TreeMap String Nat
  free : List Nat
  size : Nat

namespace Arena

open Checked Recalculation

def empty : Arena := ⟨#[], #[], #[], ∅, [], 0⟩

def sets (a : Arena) : Side → Array SlotSet
  | .dependents => a.dependents
  | .dependees => a.dependees

def withSets (a : Arena) (sets : Array SlotSet) : Side → Arena
  | .dependents => { a with dependents := sets }
  | .dependees => { a with dependees := sets }

def update (a : Arena) (side : Side) (i : Nat) (f : SlotSet → SlotSet) :
    Except ArenaFault Arena := do
  let set ← read (a.sets side) i
  let sets ← write (a.sets side) i (f set)
  return a.withSets sets side

def intern (a : Arena) (name : String) : Except ArenaFault (Arena × Nat) :=
  match a.index[name]? with
  | some i => .ok (a, i)
  | none =>
    match a.free with
    | i :: free => do
      let names ← write a.names i name
      return ({ a with names, index := a.index.insert name i, free }, i)
    | [] => do
      let names := a.names.push name
      let i ← pred names.size
      return ({ a with
        names
        dependents := a.dependents.push .empty
        dependees := a.dependees.push .empty
        index := a.index.insert name i }, i)

def release (a : Arena) (i : Nat) : Except ArenaFault Arena := do
  let name ← read a.names i
  if a.index[name]? = some i then
    let dependents ← read a.dependents i
    let dependees ← read a.dependees i
    if dependents.isEmpty && dependees.isEmpty then
      let names ← write a.names i ""
      if i ∈ a.free then throw (.freedTwice i)
      else return { a with names, index := a.index.erase name, free := i :: a.free }
    else return a
  else return a

def lose (a : Arena) : Except ArenaFault Arena := do
  let size ← pred a.size
  return { a with size }

def link (a : Arena) (i j : Nat) : Except ArenaFault Arena := do
  let dependents ← read a.dependents i
  if j ∈ dependents then return a
  else
    let a ← a.update .dependents i (·.insert j)
    let a ← a.update .dependees j (·.insert i)
    return { a with size := a.size + 1 }

def add (a : Arena) (s t : String) : Except ArenaFault Arena := do
  let (a, i) ← a.intern s
  let (a, j) ← a.intern t
  a.link i j

def unlink (a : Arena) (i j : Nat) : Except ArenaFault Arena := do
  let dependents ← read a.dependents i
  if j ∈ dependents then
    let a ← a.update .dependents i (·.erase j)
    let a ← a.update .dependees j (·.erase i)
    let a ← a.lose
    let a ← a.release i
    a.release j
  else return a

def remove (a : Arena) (s t : String) : Except ArenaFault Arena :=
  match a.index[s]?, a.index[t]? with
  | some i, some j => a.unlink i j
  | _, _ => .ok a

def detach (side : Side) (i : Nat) (a : Arena) (r : Nat) : Except ArenaFault Arena := do
  let a ← a.update side.opposite r (·.erase i)
  let a ← a.lose
  a.release r

def clear (a : Arena) (side : Side) (name : String) : Except ArenaFault Arena :=
  match a.index[name]? with
  | none => .ok a
  | some i => do
    let neighbours ← read (a.sets side) i
    let a ← a.update side i fun _ => .empty
    let a ← neighbours.toList.foldlM (detach side i) a
    a.release i

def replaceDependents (a : Arena) (s : String) (ts : List String) : Except ArenaFault Arena := do
  let a ← a.clear .dependents s
  ts.foldlM (fun a t => a.add s t) a

def replaceDependees (a : Arena) (t : String) (ss : List String) : Except ArenaFault Arena := do
  let a ← a.clear .dependees t
  ss.foldlM (fun a s => a.add s t) a

def nameOf (a : Arena) (i : Nat) : Except ArenaFault String := read a.names i

def neighbourSet (a : Arena) (side : Side) (name : String) : Except ArenaFault SlotSet :=
  match a.index[name]? with
  | some i => read (a.sets side) i
  | none => .ok .empty

def hasNeighbours (a : Arena) (side : Side) (name : String) : Except ArenaFault Bool := do
  let set ← a.neighbourSet side name
  return !set.isEmpty

def neighbourCount (a : Arena) (side : Side) (name : String) : Except ArenaFault Nat := do
  let set ← a.neighbourSet side name
  return set.size

def neighbours (a : Arena) (side : Side) (name : String) : Except ArenaFault (List String) := do
  let set ← a.neighbourSet side name
  set.toList.mapM a.nameOf

def cyclePath (stack : List Frame) (i : Nat) : Except ArenaFault (List Nat) :=
  let path := (stack.map Frame.slot).reverse
  let start := (path.idxOf? i).getD 0
  if start ≤ path.length then .ok (path.drop start ++ [i]) else .error (.outOfRange start)

def walk (a : Arena) (marks : Marks) (finished : List Nat) :
    List Frame → Except ArenaFault (Except (List Nat) (List Nat))
  | [] => .ok (.ok finished)
  | ⟨i, []⟩ :: stack =>
    if i < marks.size then walk a (marks.setIfInBounds i .done) (i :: finished) stack
    else .error (.outOfRange i)
  | ⟨i, j :: pending⟩ :: stack =>
    match _h : marks[j]? with
    | some .unvisited =>
      match read a.dependents j with
      | .ok dependents =>
        walk a (marks.setIfInBounds j .onPath) finished
          (⟨j, dependents.toList⟩ :: ⟨i, pending⟩ :: stack)
      | .error fault => .error fault
    | some .onPath => (cyclePath (⟨i, pending⟩ :: stack) j).map .error
    | some .done => walk a marks finished (⟨i, pending⟩ :: stack)
    | none => .error (.outOfRange j)
  termination_by stack => (unvisited marks, load stack)
  decreasing_by
    · refine Prod.Lex.right' _ (unvisited_set_le marks i .done (by decide)) ?_
      simp only [load, List.length_nil]
      omega
    · have := unvisited_set_lt marks j .onPath (by decide) _h
      exact Prod.Lex.left _ _ this
    · refine Prod.Lex.right _ ?_
      simp only [load, List.length_cons]
      omega

def recalculationOrder (a : Arena) (start : String) :
    Except ArenaFault (Except Cycle (List String)) :=
  match a.index[start]? with
  | none => .ok (.ok [start])
  | some i => do
    let marks ← write (Array.replicate a.names.size Mark.unvisited) i .onPath
    let dependents ← read a.dependents i
    match ← walk a marks [] [⟨i, dependents.toList⟩] with
    | .ok order =>
      let names ← order.mapM a.nameOf
      return .ok names
    | .error path =>
      let names ← path.mapM a.nameOf
      return .error ⟨names⟩

end Arena

def Graph.arena (g : Graph) : Arena where
  names := g.slots.map Slot.name
  dependents := g.slots.map Slot.dependents
  dependees := g.slots.map Slot.dependees
  index := g.index
  free := g.free
  size := g.size

end Spreadsheet
