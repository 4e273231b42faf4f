import Mathlib
import Spreadsheet.Proofs.Graph.Order
import Spreadsheet.Proofs.Graph.Turns

namespace Spreadsheet.Graph

open Relation

theorem recalculationOrder_topological (ops : List Operation) (start : String) :
    (run ops).orderWithin ((run ops).nodeCount + (run ops).size) start =
      some ((run ops).recalculationOrder start) ∧
    ∀ order, (run ops).recalculationOrder start = .ok order →
      order[0]? = some start ∧ order.Nodup ∧
      (∀ n, n ∈ order ↔ n = start ∨ TransGen (run ops).Pair start n) ∧
      ∀ x y, (run ops).Pair x y → x ∈ order → y ∈ order ∧ order.idxOf x < order.idxOf y := by
  have h := Represents.run ops
  refine ⟨h.orderWithin_eq start, fun order ho => ?_⟩
  have horder := isOrder_of_ok h.toWellFormed ho
  refine ⟨?_, horder.nodup, fun n => ?_, fun x y hxy hx => ⟨?_, ?_⟩⟩
  · rw [← List.head?_eq_getElem?]
    exact horder.head
  · apply (horder.mem_iff n).trans
    exact reflTransGen_iff_eq_or_transGen
  · exact horder.topological.mem_of_rel hx hxy
  · exact horder.topological.idxOf_lt horder.nodup hx hxy

theorem recalculationOrder_topological_of_diamond : ∃ ops,
    (run ops).recalculationOrder "A1" = .ok ["A1", "C1", "B1", "D1"] ∧
    (run ops).orderWithin ((run ops).nodeCount + (run ops).size) "A1" =
      some (.ok ["A1", "C1", "B1", "D1"]) ∧
    TransGen (run ops).Pair "A1" "D1" ∧ ¬ TransGen (run ops).Pair "A1" "X1" := by
  have ho : (run [.add "B1" "A1", .add "A1" "B1", .add "A1" "C1", .add "X1" "X1",
      .replaceDependees "A1" [], .add "C1" "D1", .add "B1" "D1"]).recalculationOrder "A1" =
      .ok ["A1", "C1", "B1", "D1"] := by cbv
  obtain ⟨hends, hsorted⟩ := recalculationOrder_topological _ "A1"
  obtain ⟨-, -, hmem, -⟩ := hsorted _ ho
  refine ⟨_, ho, hends.trans (congrArg some ho), ?_, fun hx => ?_⟩
  · exact ((hmem "D1").mp (by decide)).resolve_left (by decide)
  · exact absurd ((hmem "X1").mpr (Or.inr hx)) (by decide)

theorem recalculationOrder_error_iff (ops : List Operation) (start : String) :
    ((∃ cycle, (run ops).recalculationOrder start = .error cycle) ↔
      ∃ n, ReflTransGen (run ops).Pair start n ∧ TransGen (run ops).Pair n n) ∧
    ∀ cycle, (run ops).recalculationOrder start = .error cycle →
      2 ≤ cycle.path.length ∧ cycle.path.head? = cycle.path.getLast? ∧
      cycle.path.dropLast.Nodup ∧
      (∀ n ∈ cycle.path.dropLast, ReflTransGen (run ops).Pair start n) ∧
      cycle.path.IsChain (run ops).Pair := by
  have h := (Represents.run ops).toWellFormed
  refine ⟨exists_error_iff h, fun cycle ho => ?_⟩
  have hcycle := isCycle_of_error h ho
  have hchain := hcycle.isChain
  obtain ⟨n, mid, hp, hn, -, hr⟩ := hcycle.closed
  rw [hp] at hchain ⊢
  refine ⟨by simp, ?_, ?_, ?_, hchain⟩
  · rw [List.getLast?_concat]
    rfl
  · rwa [List.dropLast_concat]
  · rw [List.dropLast_concat]
    have hpath : (n :: mid).IsChain (run ops).Pair := hchain.left_of_append
    apply hpath.induction (ReflTransGen (run ops).Pair start)
    · intro x y hxy hx
      exact hx.tail hxy
    · exact fun _ => hr

theorem recalculationOrder_error_iff_of_cycle_beyond_start : ∃ ops,
    (run ops).recalculationOrder "A1" = .error ⟨["B1", "C1", "B1"]⟩ ∧
    (∃ n, ReflTransGen (run ops).Pair "A1" n ∧ TransGen (run ops).Pair n n) ∧
    ["B1", "C1", "B1"].IsChain (run ops).Pair ∧
    ¬ ∃ n, ReflTransGen (run ops).Pair "D1" n ∧ TransGen (run ops).Pair n n := by
  have ho : (run [.add "A1" "B1", .add "B1" "C1", .add "C1" "B1", .add "C1" "D1",
      .add "X1" "X1"]).recalculationOrder "A1" = .error ⟨["B1", "C1", "B1"]⟩ := by cbv
  have ho' : (run [.add "A1" "B1", .add "B1" "C1", .add "C1" "B1", .add "C1" "D1",
      .add "X1" "X1"]).recalculationOrder "D1" = .ok ["D1"] := by cbv
  obtain ⟨hiff, hreport⟩ := recalculationOrder_error_iff _ "A1"
  obtain ⟨-, -, -, -, hchain⟩ := hreport _ ho
  refine ⟨_, ho, hiff.mp ⟨_, ho⟩, hchain, fun hcycle => ?_⟩
  obtain ⟨cycle, hcycle⟩ := (recalculationOrder_error_iff _ "D1").1.mpr hcycle
  cases hcycle.symm.trans ho'

end Spreadsheet.Graph
