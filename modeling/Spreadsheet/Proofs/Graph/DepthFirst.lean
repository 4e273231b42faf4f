import Mathlib
import Spreadsheet.Graph.DepthFirst
import Spreadsheet.Proofs.Graph.Operations
import Spreadsheet.Proofs.Graph.Walk

/-! The walk against the recursive search. A search of some dependents of a slot is what the walk
does from the time it has them to look at on top of its stack until it leaves that slot, whatever
lies below; a cycle found in there ends both at once. -/

namespace Spreadsheet

open Recalculation

namespace DepthFirst

variable {g : Graph} {marks : Marks} {path finished js : List Nat}

lemma drop_idxOf_eq_dropWhile {j : Nat} (hj : j ∈ path) :
    path.drop ((path.idxOf? j).getD 0) = path.dropWhile (· ≠ j) := by
  obtain ⟨before, mid, hsplit, hbefore⟩ := List.eq_append_cons_of_mem hj
  rw [hsplit, drop_idxOf_append hbefore, List.dropWhile_append_of_pos]
  · simp
  · intro k hk
    exact decide_eq_true (ne_of_mem_of_not_mem hk hbefore)

lemma onPath_of_leave {inner : Marks} {j k : Nat}
    (hinner : ∀ k : Nat, inner[k]? = some .onPath →
      (marks.setIfInBounds j .onPath)[k]? = some .onPath)
    (hk : (inner.setIfInBounds j .done)[k]? = some .onPath) : marks[k]? = some .onPath := by
  obtain ⟨-, hdone⟩ | ⟨hkj, hk⟩ := mark_of_set hk
  · cases hdone
  · obtain ⟨rfl, -⟩ | ⟨-, hk⟩ := mark_of_set (hinner k hk)
    · exact (hkj rfl).elim
    · exact hk

lemma onPath_of_visitAll {v : { v : Visited // unvisited v.1 ≤ unvisited marks }}
    (h : visitAll g path marks finished js = .ok v) (k : Nat) (hk : v.1.1[k]? = some .onPath) :
    marks[k]? = some .onPath := by
  fun_induction visitAll g path marks finished js generalizing k with
  | case1 path marks finished =>
    obtain rfl := Except.ok.inj h
    exact hk
  | case2 => cases h
  | case3 => cases h
  | case4 path marks finished j js hj entered inner finished' hinner h1 left w hw h2 ih1 ih2 =>
    obtain rfl := Except.ok.inj h
    exact onPath_of_leave (ih1 h1) (ih2 h2 k hk)
  | case5 => cases h
  | case6 path marks finished j js hu hp ih => exact ih h k hk

lemma visitAll_singleton {j : Nat} (hj : marks[j]? = some .unvisited) :
    (visitAll g path marks finished [j]).map (fun v => v.1.2) =
      (visitAll g (path ++ [j]) (marks.setIfInBounds j .onPath) finished
        (g.slot j).dependents.toList).map fun v => j :: v.1.2 := by
  rw [visitAll]
  split
  · cases visitAll g (path ++ [j]) _ finished _ with
    | error cycle => rfl
    | ok v =>
      simp only [visitAll]
      rfl
  · rename_i hj'
    cases hj.symm.trans hj'
  · rename_i hj' _
    exact (hj' hj).elim

structure Follows (path : List Nat) (marks : Marks) (stack : List Frame) : Prop where
  slots : (stack.map Frame.slot).reverse = path
  onPath (k : Nat) (h : marks[k]? = some .onPath) : k ∈ path

def resume (g : Graph) (i : Nat) (stack : List Frame) :
    Search marks → Except (List Nat) (List Nat)
  | .error cycle => .error cycle
  | .ok v => walk g (v.1.1.setIfInBounds i .done) (i :: v.1.2) stack

section Frames

variable {stack : List Frame} {i j : Nat}

lemma Follows.enter (h : Follows path marks (⟨i, j :: js⟩ :: stack)) (pending : List Nat) :
    Follows (path ++ [j]) (marks.setIfInBounds j .onPath) (⟨j, pending⟩ :: ⟨i, js⟩ :: stack) where
  slots := by
    rw [List.map_cons, List.reverse_cons, ← h.slots]
    rfl
  onPath k hk := by
    obtain ⟨rfl, -⟩ | ⟨-, hk⟩ := mark_of_set hk
    · exact List.mem_append_right path List.mem_cons_self
    · exact List.mem_append_left [j] (h.onPath k hk)

lemma Follows.leave (h : Follows path marks (⟨i, j :: js⟩ :: stack)) {inner : Marks}
    (hinner : ∀ k : Nat, inner[k]? = some .onPath →
      (marks.setIfInBounds j .onPath)[k]? = some .onPath) :
    Follows path (inner.setIfInBounds j .done) (⟨i, js⟩ :: stack) where
  slots := h.slots
  onPath k hk := h.onPath k (onPath_of_leave hinner hk)

lemma Follows.cyclePath_eq (h : Follows path marks (⟨i, j :: js⟩ :: stack))
    (hj : marks[j]? = some .onPath) :
    cyclePath (⟨i, js⟩ :: stack) j = path.dropWhile (· ≠ j) ++ [j] := by
  have hslots : ((⟨i, js⟩ :: stack : List Frame).map Frame.slot).reverse = path := h.slots
  rw [cyclePath, hslots, drop_idxOf_eq_dropWhile (h.onPath j hj)]

theorem walk_eq_resume (h : Follows path marks (⟨i, js⟩ :: stack)) :
    walk g marks finished (⟨i, js⟩ :: stack) =
      resume g i stack (visitAll g path marks finished js) := by
  -- the stack is general: the search below `j` runs on top of the slots that `j` was entered from
  fun_induction visitAll g path marks finished js generalizing i stack with
  | case1 path marks finished => exact walk_leave marks finished stack i
  | case2 path marks finished j js hj entered cycle h1 ih =>
    rw [walk_enter _ _ _ _ _ hj, ih (h.enter _), h1]
    rfl
  | case3 path marks finished j js hj entered inner finished' hinner h1 left cycle h2 ih1 ih2 =>
    rw [walk_enter _ _ _ _ _ hj, ih1 (h.enter _), h1]
    refine (ih2 (h.leave (onPath_of_visitAll h1))).trans ?_
    rw [h2]
    rfl
  | case4 path marks finished j js hj entered inner finished' hinner h1 left w hw h2 ih1 ih2 =>
    rw [walk_enter _ _ _ _ _ hj, ih1 (h.enter _), h1]
    refine (ih2 (h.leave (onPath_of_visitAll h1))).trans ?_
    rw [h2]
    rfl
  | case5 path marks finished j js hj =>
    rw [walk_cycle _ _ _ _ _ hj, h.cyclePath_eq hj]
    rfl
  | case6 path marks finished j js hu hp ih =>
    rw [walk_skip _ _ _ _ _ hu hp]
    exact ih ⟨h.slots, h.onPath⟩

lemma walk_eq_visitAll (hi : marks[i]? = some .unvisited)
    (hpath : ∀ k : Nat, marks[k]? ≠ some .onPath) :
    walk g (marks.setIfInBounds i .onPath) finished [⟨i, (g.slot i).dependents.toList⟩] =
      (visitAll g [] marks finished [i]).map fun v => v.1.2 := by
  have hroot : Follows [i] (marks.setIfInBounds i .onPath)
      [⟨i, (g.slot i).dependents.toList⟩] := by
    refine ⟨rfl, fun k hk => ?_⟩
    obtain ⟨rfl, -⟩ | ⟨-, hk⟩ := mark_of_set hk
    · exact List.mem_singleton_self k
    · exact (hpath k hk).elim
  rw [walk_eq_resume hroot, visitAll_singleton hi, List.nil_append]
  cases visitAll g [i] _ finished _ with
  | error cycle => rfl
  | ok v => rw [resume, walk, Except.map]

end Frames

end DepthFirst

namespace Graph

open DepthFirst

theorem recalculationOrder_eq_depthFirstOrder (ops : List Operation) (start : String) :
    (run ops).recalculationOrder start = (run ops).depthFirstOrder start := by
  have h := (Represents.run ops).toWellFormed
  rw [recalculationOrder, depthFirstOrder]
  cases hs : (run ops).slotOf? start with
  | none => rfl
  | some i =>
    have hlt := h.slot_lt (h.live_of_slot hs)
    dsimp only
    rw [walk_eq_visitAll]
    · cases visitAll (run ops) [] _ [] [i] <;> rfl
    · exact Array.getElem?_replicate.trans (if_pos hlt)
    · intro k
      rw [Array.getElem?_replicate]
      split <;> simp

example : (run [.add "A1" "B1", .add "B1" "C1", .add "C1" "B1"]).depthFirstOrder "A1" =
    .error ⟨["B1", "C1", "B1"]⟩ := by cbv

end Graph

end Spreadsheet
