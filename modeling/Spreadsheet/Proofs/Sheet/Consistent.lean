import Spreadsheet.Proofs.Sheet.Cells
import Spreadsheet.Proofs.Sheet.Reachable
import Spreadsheet.Proofs.Sheet.Rewire

/-! The invariant of sheets. The graph has the pairs that the formulas ask for, it has no cycle, and
every value is the one that the contents give. An edit that closes a cycle and a check put the
former pairs back, so only an accepted edit has anything to show. -/

namespace Spreadsheet.Sheet

open Relation

structure Consistent (s : Sheet) : Prop where
  graph : s.graph.WellFormed
  names : s.cells.names.Nodup
  mirrors (x t : String) : s.graph.Pair x t ↔ s.cells.Refers x t
  acyclic (n : String) : ¬ TransGen s.graph.Pair n n
  solves : Meaning.Solves s.storedContents s.storedValue

section Replace

variable {s : Sheet} {n : String} {c : Contents}

lemma replace_of_error {cycle : Cycle} (h : (rewire s.graph n c.references).2 = .error cycle) :
    s.replace n c = (.error (.circular n cycle), { s with
      graph := (rewire s.graph n c.references).1.replaceDependees n (s.graph.dependees n) }) := by
  have hr : rewire s.graph n c.references =
      ((rewire s.graph n c.references).1, .error cycle) := Prod.ext rfl h
  rw [replace, hr]

lemma replace_of_ok {order : List String}
    (h : (rewire s.graph n c.references).2 = .ok (n :: order)) :
    s.replace n c = (.ok (n :: order), { s with
      cells := order.foldl Cells.recalculate (s.cells.stored n c)
      graph := (rewire s.graph n c.references).1
      changed := true }) := by
  have hr : rewire s.graph n c.references =
      ((rewire s.graph n c.references).1, .ok (n :: order)) := Prod.ext rfl h
  rw [replace, hr]
  rfl

lemma contents?_replace_of_ok {order : List String}
    (h : (rewire s.graph n c.references).2 = .ok (n :: order)) :
    (s.replace n c).2.cells.contents? = (s.cells.stored n c).contents? := by
  rw [replace_of_ok h]
  exact Cells.contents?_recalculateAll _ order

lemma names_replace_of_ok {order : List String}
    (h : (rewire s.graph n c.references).2 = .ok (n :: order)) :
    (s.replace n c).2.cells.names = (s.cells.stored n c).names := by
  rw [replace_of_ok h]
  exact Cells.names_recalculateAll _ order

lemma replace_cases (hs : s.graph.WellFormed) (n : String) (c : Contents) :
    (∃ cycle, (rewire s.graph n c.references).2 = .error cycle) ∨
      ∃ order, (rewire s.graph n c.references).2 = .ok (n :: order) := by
  cases ho : (rewire s.graph n c.references).2 with
  | error cycle => exact Or.inl ⟨cycle, rfl⟩
  | ok order =>
    have hhead := (isOrder_of_rewire hs n c.references ho).head
    cases order with
    | nil => cases hhead
    | cons m order =>
      obtain rfl := Option.some.inj hhead
      exact Or.inr ⟨order, rfl⟩

end Replace

lemma nodup_names_stored {cells : Cells} (h : cells.names.Nodup) (n : String) (c : Contents) :
    (cells.stored n c).names.Nodup := by
  rw [Cells.stored, store]
  split
  · rw [Cells.names_erase]
    exact h.filter _
  · rw [Cells.names_put]
    split
    · exact h
    · rename_i hn
      exact h.append (List.nodup_singleton n) (List.disjoint_singleton.mpr hn)

namespace Consistent

lemma empty (rules : NameRules) (version : String) : Consistent (.empty rules version) := by
  refine ⟨Graph.wellFormed_empty, List.nodup_nil, fun x t => ?_, fun n hn => ?_, fun n => rfl⟩
  · refine ⟨fun h => (Graph.not_pair_empty x t h).elim, ?_⟩
    rintro ⟨c, hc, -⟩
    cases hc
  · obtain ⟨t, ht, -⟩ := TransGen.head'_iff.mp hn
    exact Graph.not_pair_empty n t ht

variable {s : Sheet} (h : s.Consistent)
include h

lemma saved : Consistent { s with changed := false } :=
  ⟨h.graph, h.names, h.mirrors, h.acyclic, h.solves⟩

lemma with_graph {g : Graph} (hg : g.WellFormed) (hp : ∀ x t, g.Pair x t ↔ s.graph.Pair x t) :
    Consistent { s with graph := g } := by
  have hpair : g.Pair = s.graph.Pair := funext fun x => funext fun t => propext (hp x t)
  refine ⟨hg, h.names, fun x t => (hp x t).trans (h.mirrors x t), fun n => ?_, h.solves⟩
  change ¬ TransGen g.Pair n n
  rw [hpair]
  exact h.acyclic n

lemma tryFormula (n : String) (f : Formula) : Consistent (s.tryFormula n f).2 := by
  rw [tryFormula_snd]
  exact h.with_graph ((rewire_wellFormed h.graph n _).replaceDependees n _)
    fun x t => pair_restore h.graph n _ x t

lemma refers_stored_iff (n : String) (c : Contents) (x t : String) :
    (rewire s.graph n c.references).1.Pair x t ↔ (s.cells.stored n c).Refers x t := by
  rw [pair_rewire h.graph, Cells.refers_stored, h.mirrors]

lemma replace (n : String) (c : Contents) : Consistent (s.replace n c).2 := by
  rcases replace_cases h.graph n c with ⟨cycle, ho⟩ | ⟨order, ho⟩
  · rw [replace_of_error ho]
    exact h.with_graph ((rewire_wellFormed h.graph n _).replaceDependees n _)
      fun x t => pair_restore h.graph n _ x t
  · rw [replace_of_ok ho]
    have hpair := h.refers_stored_iff n c
    have horder := isOrder_of_rewire h.graph n c.references ho
    have hrefers : (rewire s.graph n c.references).1.Pair = (s.cells.stored n c).Refers :=
      funext fun x => funext fun t => propext (hpair x t)
    have hcontents := Cells.contents?_recalculateAll (s.cells.stored n c) order
    refine ⟨rewire_wellFormed h.graph n _, ?_, fun x t => ?_, ?_, ?_⟩
    · change (order.foldl Cells.recalculate (s.cells.stored n c)).names.Nodup
      rw [Cells.names_recalculateAll]
      exact nodup_names_stored h.names n c
    · change (rewire s.graph n c.references).1.Pair x t ↔
        (order.foldl Cells.recalculate (s.cells.stored n c)).Refers x t
      rw [hpair, Cells.Refers, Cells.Refers, hcontents]
    · exact acyclic_rewire h.graph n _ h.acyclic ho
    · refine Cells.solves_recalculateAll h.solves (hrefers ▸ horder.topological) horder.nodup
        fun m hm => ?_
      have hmn : n ≠ m := by
        rintro rfl
        exact (List.nodup_cons.mp horder.nodup).1 hm
      rcases (horder.reached (List.mem_cons_of_mem n hm)).cases_tail with hnm | ⟨x, -, hx⟩
      · exact (hmn hnm.symm).elim
      · exact ⟨x, (hpair x m).mp hx⟩

end Consistent

lemma consistent_invariant (rules : NameRules) (version : String) :
    Invariant rules version Consistent where
  empty := .empty rules version
  replace h n c _ _ := h.replace n c
  tryFormula h n f := h.tryFormula n f
  saved h := h.saved

section Reachable

variable {rules : NameRules} {version : String} {s : Sheet} (h : Reachable rules version s)
include h

lemma Reachable.consistent : s.Consistent :=
  (h.with_invariant (consistent_invariant rules version)).2.2

lemma Reachable.rules_eq : s.rules = rules :=
  (h.with_invariant (consistent_invariant rules version)).1

lemma Reachable.version_eq : s.version = version :=
  (h.with_invariant (consistent_invariant rules version)).2.1

end Reachable

lemma refers_iff_formula {cells : Cells} {x t : String} : cells.Refers x t ↔
    ∃ f, cells.contents? t = some (.formula f) ∧ x ∈ f.variableNames := by
  constructor
  · rintro ⟨c, hc, hx⟩
    cases c with
    | text s => exact (List.not_mem_nil hx).elim
    | number y => exact (List.not_mem_nil hx).elim
    | formula f => exact ⟨f, hc, hx⟩
  · rintro ⟨f, hf, hx⟩
    exact ⟨.formula f, hf, hx⟩

theorem Reachable.graph_mirrors_formulas {rules : NameRules} {version : String} {s : Sheet}
    (h : Reachable rules version s) :
    (∀ x t, t ∈ s.graph.dependents x ↔
      ∃ f, s.storedContents t = some (.formula f) ∧ x ∈ f.variableNames) ∧
    (∀ x t, x ∈ s.graph.dependees t ↔ t ∈ s.graph.dependents x) ∧
    (∀ n, ¬ TransGen (fun x t => t ∈ s.graph.dependents x) n n) ∧
    ∀ n, s.graph.knows n = true ↔
      ∃ m, m ∈ s.graph.dependents n ∨ n ∈ s.graph.dependents m := by
  have hs := h.consistent
  refine ⟨fun x t => ?_, fun x t => ?_, hs.acyclic, fun n => ?_⟩
  · exact (hs.mirrors x t).trans refers_iff_formula
  · exact Graph.mem_dependees_iff hs.graph x t
  · exact Graph.knows_iff hs.graph n

theorem graph_mirrors_formulas_after_rejection :
    ∃ s, s = (((empty .standard "1.0").set "b1" "=a1").2.set "A1" "=b1+b1").2 ∧
      Reachable .standard "1.0" s ∧ s.graph.dependents "A1" = ["B1"] ∧
      (∃ f, s.storedContents "B1" = some (.formula f) ∧ "A1" ∈ f.variableNames) ∧
      ¬ TransGen (fun x t => t ∈ s.graph.dependents x) "A1" "A1" := by
  refine ⟨_, rfl, ?_⟩
  have h := (@Reachable.empty .standard "1.0").set "b1" "=a1" |>.set "A1" "=b1+b1"
  have hd : (((empty .standard "1.0").set "b1" "=a1").2.set "A1" "=b1+b1").2.graph.dependents "A1" =
      ["B1"] := by cbv
  obtain ⟨hpair, -, hacyclic, -⟩ := h.graph_mirrors_formulas
  refine ⟨h, hd, (hpair "A1" "B1").mp ?_, hacyclic "A1"⟩
  rw [hd]
  exact List.mem_singleton_self "B1"

end Spreadsheet.Sheet
