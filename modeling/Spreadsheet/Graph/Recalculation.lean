import Spreadsheet.Graph.Basic

/-!
The order in which names are recalculated after an edit: a depth-first walk along the dependents,
with a stack of its own, that lists a name before all names found from it. The walk ends at the
first pair that leads back to a name of the current path.
-/

namespace Spreadsheet

structure Cycle where
  path : List String
  deriving DecidableEq, Repr

def Cycle.message (cycle : Cycle) : String :=
  "circular dependency: " ++ String.intercalate " -> " cycle.path

namespace Recalculation

inductive Mark where
  | unvisited
  | onPath
  | done
  deriving DecidableEq, Repr

structure Frame where
  slot : Nat
  pending : List Nat

abbrev Marks := Array Mark

def unvisited (marks : Marks) : Nat := marks.toList.count .unvisited

def load : List Frame → Nat
  | [] => 0
  | f :: stack => f.pending.length + 1 + load stack

def cyclePath (stack : List Frame) (i : Nat) : List Nat :=
  let path := (stack.map Frame.slot).reverse
  path.drop ((path.idxOf? i).getD 0) ++ [i]

theorem unvisited_set (marks : Marks) (i : Nat) (m : Mark) (h : m ≠ .unvisited)
    (hi : i < marks.size) :
    unvisited (marks.setIfInBounds i m) =
      unvisited marks - if marks[i] = .unvisited then 1 else 0 := by
  have hm : (m == Mark.unvisited) = false := by simpa using h
  simp [unvisited, List.count_set, hi, hm]

theorem unvisited_set_le (marks : Marks) (i : Nat) (m : Mark) (h : m ≠ .unvisited) :
    unvisited (marks.setIfInBounds i m) ≤ unvisited marks := by
  by_cases hi : i < marks.size
  · rw [unvisited_set marks i m h hi]
    omega
  · exact Nat.le_of_eq (congrArg unvisited (Array.setIfInBounds_eq_of_size_le (by omega)))

theorem unvisited_set_lt (marks : Marks) (i : Nat) (m : Mark) (h : m ≠ .unvisited)
    (hi : marks[i]? = some .unvisited) :
    unvisited (marks.setIfInBounds i m) < unvisited marks := by
  obtain ⟨hlt, hm⟩ := Array.getElem?_eq_some_iff.mp hi
  have hpos : 0 < unvisited marks := by
    refine List.count_pos_iff.mpr ?_
    rw [← hm]
    exact Array.getElem_mem_toList hlt
  rw [unvisited_set marks i m h hlt, if_pos hm]
  omega

def walk (g : Graph) (marks : Marks) (finished : List Nat) :
    List Frame → Except (List Nat) (List Nat)
  | [] => .ok finished
  | ⟨i, []⟩ :: stack => walk g (marks.setIfInBounds i .done) (i :: finished) stack
  | ⟨i, j :: pending⟩ :: stack =>
    match _h : marks[j]? with
    | some .unvisited =>
      walk g (marks.setIfInBounds j .onPath) finished
        (⟨j, (g.slot j).dependents.toList⟩ :: ⟨i, pending⟩ :: stack)
    | some .onPath => .error (cyclePath (⟨i, pending⟩ :: stack) j)
    | _ => walk g marks finished (⟨i, pending⟩ :: stack)
  termination_by stack => (unvisited marks, load stack)
  decreasing_by
    · refine Prod.Lex.right' _ (unvisited_set_le marks i .done (by decide)) ?_
      simp only [load, List.length_nil]
      omega
    · have := unvisited_set_lt marks j .onPath (by decide) _h
      exact Prod.Lex.left _ _ this
    · refine Prod.Lex.right _ ?_
      simp only [load, List.length_cons]
      omega

end Recalculation

open Recalculation in
def Graph.recalculationOrder (g : Graph) (start : String) : Except Cycle (List String) :=
  match g.slotOf? start with
  | none => .ok [start]
  | some i =>
    let marks : Marks := (Array.replicate g.slotCount Mark.unvisited).setIfInBounds i .onPath
    match walk g marks [] [⟨i, (g.slot i).dependents.toList⟩] with
    | .ok order => .ok (order.map g.nameOf)
    | .error path => .error ⟨path.map g.nameOf⟩

end Spreadsheet
