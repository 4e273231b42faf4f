import Spreadsheet.Proofs.CommandLine.Edits
import Spreadsheet.Proofs.Graph.Capacity

namespace Spreadsheet

namespace Sheet

def setRewirings (g : Graph) : Except EditError (String × Contents) → List Graph.Operation
  | .error _ => []
  | .ok (n, c) =>
    match (rewire g n c.references).2 with
    | .ok _ => [.replaceDependees n c.references]
    | .error _ => [.replaceDependees n c.references, .replaceDependees n (g.dependees n)]

def checkRewirings (g : Graph) : Except EditError (String × Contents) → List Graph.Operation
  | .ok (n, .formula f) =>
    [.replaceDependees n f.variableNames, .replaceDependees n (g.dependees n)]
  | _ => []

def rewirings (s : Sheet) : Edit → List Graph.Operation
  | .set name content => setRewirings s.graph (s.interpret name content)
  | .check name content => checkRewirings s.graph (s.interpret name content)

def allRewirings (s : Sheet) : List Edit → List Graph.Operation
  | [] => []
  | edit :: edits => s.rewirings edit ++ (s.afterEdit edit).allRewirings edits

variable (s : Sheet)

lemma graph_replace (n : String) (c : Contents) :
    (s.replace n c).2.graph = (setRewirings s.graph (.ok (n, c))).foldl Graph.perform s.graph := by
  rw [replace, setRewirings]
  cases hrewire : rewire s.graph n c.references with
  | mk graph order =>
    have hgraph : s.graph.replaceDependees n c.references = graph := congrArg Prod.fst hrewire
    cases order with
    | ok order => exact hgraph.symm
    | error cycle =>
      rw [← hgraph]
      rfl

lemma graph_afterEdit (edit : Edit) :
    (s.afterEdit edit).graph = (s.rewirings edit).foldl Graph.perform s.graph := by
  cases edit with
  | set name content =>
    rw [afterEdit, rewirings, set]
    cases s.interpret name content with
    | error e => rfl
    | ok target => exact s.graph_replace target.1 target.2
  | check name content =>
    rw [afterEdit, rewirings, check]
    cases s.interpret name content with
    | error e => rfl
    | ok target =>
      obtain ⟨n, c⟩ := target
      cases c with
      | formula f =>
        dsimp only
        rw [tryFormula_snd]
        rfl
      | text _ => rfl
      | number _ => rfl

lemma graph_afterEdits (edits : List Edit) :
    (s.afterEdits edits).graph = (s.allRewirings edits).foldl Graph.perform s.graph := by
  induction edits generalizing s with
  | nil => rfl
  | cons edit edits ih =>
    rw [allRewirings, List.foldl_append, ← graph_afterEdit]
    exact ih (s.afterEdit edit)

end Sheet

namespace Graph

theorem slotCount_is_peak (ops : List Operation) :
    IsGreatest {n | ∃ done, done <+: ops ∧ (run done).nodeCount = n} (run ops).slotCount ∧
      (∀ k, (∀ done, done <+: ops → (run done).nodeCount ≤ k) → (run ops).slotCount ≤ k) ∧
      ∀ (s : Sheet) (edits : List Edit), s.graph = run ops →
        (s.afterEdits edits).graph = run (ops ++ s.allRewirings edits) ∧
        ∀ k, (∀ done, done <+: ops ++ s.allRewirings edits → (run done).nodeCount ≤ k) →
          (s.afterEdits edits).graph.slotCount ≤ k := by
  have hbound (ops : List Operation) (k : Nat)
      (hk : ∀ done, done <+: ops → (run done).nodeCount ≤ k) : (run ops).slotCount ≤ k := by
    obtain ⟨done, hdone, hpeak⟩ := (isGreatest_slotCount ops).1
    exact hpeak ▸ hk done hdone
  refine ⟨isGreatest_slotCount ops, hbound ops, fun s edits hs => ?_⟩
  have hgraph : (s.afterEdits edits).graph = run (ops ++ s.allRewirings edits) := by
    rw [s.graph_afterEdits, hs, run, run, List.foldl_append]
  refine ⟨hgraph, fun k hk => ?_⟩
  rw [hgraph]
  exact hbound _ k hk

theorem slotCount_is_peak_of_dry_runs :
    ∃ s : Sheet, s = .empty .standard "1.0" ∧ s.graph = run [] ∧
      (∀ done, done <+: [] ++ s.allRewirings [.check "c1" "=a1+b1", .set "a1" "=a1"] →
        (run done).nodeCount ≤ 3) ∧
      (s.afterEdits [.check "c1" "=a1+b1", .set "a1" "=a1"]).graph.slotCount ≤ 3 := by
  have hrewirings : (Sheet.empty .standard "1.0").allRewirings
      [.check "c1" "=a1+b1", .set "a1" "=a1"] =
      [.replaceDependees "C1" ["A1", "B1"], .replaceDependees "C1" [],
        .replaceDependees "A1" ["A1"], .replaceDependees "A1" []] := by
    cbv
  have hnames : ∀ done, done <+: [] ++ (Sheet.empty .standard "1.0").allRewirings
      [.check "c1" "=a1+b1", .set "a1" "=a1"] → (run done).nodeCount ≤ 3 := by
    intro done hdone
    rw [hrewirings] at hdone
    revert done
    simp only [← List.mem_inits]
    decide +kernel
  exact ⟨_, rfl, rfl, hnames, ((slotCount_is_peak []).2.2 _ _ rfl).2 3 hnames⟩

end Graph

end Spreadsheet
