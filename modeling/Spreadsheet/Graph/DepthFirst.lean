import Spreadsheet.Graph.Recalculation

namespace Spreadsheet

open Recalculation

namespace DepthFirst

abbrev Visited := Marks × List Nat

abbrev Search (marks : Marks) :=
  Except (List Nat) { v : Visited // unvisited v.1 ≤ unvisited marks }

def visitAll (g : Graph) (path : List Nat) (marks : Marks) (finished : List Nat) :
    List Nat → Search marks
  | [] => .ok ⟨(marks, finished), Nat.le_refl _⟩
  | j :: js =>
    match h : marks[j]? with
    | some .unvisited =>
      have entered := unvisited_set_lt marks j .onPath (by decide) h
      match visitAll g (path ++ [j]) (marks.setIfInBounds j .onPath) finished
        (g.slot j).dependents.toList with
      | .error cycle => .error cycle
      | .ok ⟨(inner, finished), hinner⟩ =>
        have left := unvisited_set_le inner j .done (by decide)
        match visitAll g path (inner.setIfInBounds j .done) (j :: finished) js with
        | .error cycle => .error cycle
        | .ok ⟨v, hv⟩ =>
          .ok ⟨v, Nat.le_trans hv (Nat.le_trans left (Nat.le_trans hinner (Nat.le_of_lt entered)))⟩
    | some .onPath => .error (path.dropWhile (· ≠ j) ++ [j])
    | _ => visitAll g path marks finished js
  termination_by js => (unvisited marks, js.length)
  decreasing_by
    · exact Prod.Lex.left _ _ entered
    · exact Prod.Lex.left _ _ (Nat.lt_of_le_of_lt (Nat.le_trans left hinner) entered)
    · exact Prod.Lex.right _ (Nat.lt_succ_self _)

end DepthFirst

open DepthFirst in
def Graph.depthFirstOrder (g : Graph) (start : String) : Except Cycle (List String) :=
  match g.slotOf? start with
  | none => .ok [start]
  | some i =>
    match visitAll g [] (Array.replicate g.slotCount Mark.unvisited) [] [i] with
    | .ok ⟨(_, order), _⟩ => .ok (order.map g.nameOf)
    | .error path => .error ⟨path.map g.nameOf⟩

end Spreadsheet
