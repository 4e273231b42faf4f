import Std.Data.TreeMap
import Spreadsheet.Graph.SlotSet

/-!
The dependency graph of a document: a set of ordered pairs of names, where `(s, t)` says that `t`
depends on `s`. Every name of a pair has a slot. A name that is left in no pair gives up its slot,
and the slot given up last is the first to be taken again.
-/

namespace Spreadsheet

inductive Side where
  | dependents
  | dependees
  deriving DecidableEq, Repr

def Side.opposite : Side → Side
  | dependents => dependees
  | dependees => dependents

structure Slot where
  name : String
  dependents : SlotSet
  dependees : SlotSet
  deriving Inhabited

namespace Slot

def neighbours (slot : Slot) : Side → SlotSet
  | .dependents => slot.dependents
  | .dependees => slot.dependees

def update (slot : Slot) (f : SlotSet → SlotSet) : Side → Slot
  | .dependents => ⟨slot.name, f slot.dependents, slot.dependees⟩
  | .dependees => ⟨slot.name, slot.dependents, f slot.dependees⟩

def rename (slot : Slot) (name : String) : Slot := ⟨name, slot.dependents, slot.dependees⟩

def isUnused (slot : Slot) : Bool := slot.dependents.isEmpty && slot.dependees.isEmpty

end Slot

structure Graph where
  slots : Array Slot
  index : Std.TreeMap String Nat
  free : List Nat
  size : Nat

namespace Graph

def empty : Graph := ⟨#[], ∅, [], 0⟩

instance : Inhabited Graph := ⟨empty⟩

def slotOf? (g : Graph) (name : String) : Option Nat := g.index[name]?

def slot (g : Graph) (i : Nat) : Slot := g.slots.getD i default

def nameOf (g : Graph) (i : Nat) : String := (g.slot i).name

def modifySlot (g : Graph) (i : Nat) (f : Slot → Slot) : Graph :=
  { g with slots := g.slots.modify i f }

def intern (g : Graph) (name : String) : Graph × Nat :=
  match g.slotOf? name with
  | some i => (g, i)
  | none =>
    match g.free with
    | i :: free =>
      (⟨g.slots.modify i (·.rename name), g.index.insert name i, free, g.size⟩, i)
    | [] =>
      let i := g.slots.size
      (⟨g.slots.push ⟨name, .empty, .empty⟩, g.index.insert name i, [], g.size⟩, i)

def release (g : Graph) (i : Nat) : Graph :=
  let slot := g.slot i
  if g.slotOf? slot.name = some i ∧ slot.isUnused then
    ⟨g.slots.modify i (·.rename ""), g.index.erase slot.name, i :: g.free, g.size⟩
  else g

def link (g : Graph) (i j : Nat) : Graph :=
  if j ∈ (g.slot i).dependents then g
  else
    let g := g.modifySlot i (·.update (·.insert j) .dependents)
    let g := g.modifySlot j (·.update (·.insert i) .dependees)
    { g with size := g.size + 1 }

def add (g : Graph) (s t : String) : Graph :=
  let (g, i) := g.intern s
  let (g, j) := g.intern t
  g.link i j

def unlink (g : Graph) (i j : Nat) : Graph :=
  if j ∈ (g.slot i).dependents then
    let g := g.modifySlot i (·.update (·.erase j) .dependents)
    let g := g.modifySlot j (·.update (·.erase i) .dependees)
    let g := { g with size := g.size - 1 }
    (g.release i).release j
  else g

def remove (g : Graph) (s t : String) : Graph :=
  match g.slotOf? s, g.slotOf? t with
  | some i, some j => g.unlink i j
  | _, _ => g

def detach (side : Side) (i : Nat) (g : Graph) (r : Nat) : Graph :=
  let g := g.modifySlot r (·.update (·.erase i) side.opposite)
  { g with size := g.size - 1 }.release r

def clear (g : Graph) (side : Side) (name : String) : Graph :=
  match g.slotOf? name with
  | none => g
  | some i =>
    let neighbours := ((g.slot i).neighbours side).toList
    let g := g.modifySlot i (·.update (fun _ => .empty) side)
    (neighbours.foldl (detach side i) g).release i

def replaceDependents (g : Graph) (s : String) (ts : List String) : Graph :=
  ts.foldl (fun g t => g.add s t) (g.clear .dependents s)

def replaceDependees (g : Graph) (t : String) (ss : List String) : Graph :=
  ss.foldl (fun g s => g.add s t) (g.clear .dependees t)

def isEmpty (g : Graph) : Bool := g.size == 0

def nodeCount (g : Graph) : Nat := g.index.size

def slotCount (g : Graph) : Nat := g.slots.size

def knows (g : Graph) (name : String) : Bool := (g.slotOf? name).isSome

def neighbourSlots (g : Graph) (side : Side) (name : String) : List Nat :=
  match g.slotOf? name with
  | some i => ((g.slot i).neighbours side).toList
  | none => []

def dependents (g : Graph) (s : String) : List String :=
  (g.neighbourSlots .dependents s).map g.nameOf

def dependees (g : Graph) (t : String) : List String :=
  (g.neighbourSlots .dependees t).map g.nameOf

def hasDependents (g : Graph) (s : String) : Bool := !(g.neighbourSlots .dependents s).isEmpty

def hasDependees (g : Graph) (t : String) : Bool := !(g.neighbourSlots .dependees t).isEmpty

def dependeeCount (g : Graph) (t : String) : Nat := (g.neighbourSlots .dependees t).length

end Graph

end Spreadsheet
