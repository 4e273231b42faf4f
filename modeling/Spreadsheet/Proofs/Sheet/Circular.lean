import Spreadsheet.Proofs.Sheet.Consistent

namespace Spreadsheet.Sheet

open Relation

structure ClosesCycle (g : Graph) (n : String) (names : List String) (cycle : Cycle) : Prop where
  closed : ∃ mid, cycle.path = n :: mid ++ [n] ∧ (n :: mid).Nodup
  edges : cycle.path.IsChain fun x y => if y = n then x ∈ names else y ∈ g.dependents x

structure SameDocument (s t : Sheet) : Prop where
  cells : t.cells = s.cells
  rules : t.rules = s.rules
  pairs (x y : String) : y ∈ t.graph.dependents x ↔ y ∈ s.graph.dependents x

structure SameState (s t : Sheet) : Prop extends SameDocument s t where
  version : t.version = s.version
  changed : t.changed = s.changed

lemma SameDocument.toMarkup_eq {s u : Sheet} (h : SameDocument s u) (hv : u.version = s.version) :
    u.toMarkup = s.toMarkup := by
  rw [toMarkup, toMarkup, document, document, records, records, h.cells, hv]

section Rewire

variable {s : Sheet} (h : s.Consistent) (n : String) (c : Contents)
include h

lemma Consistent.sameState_of_error {cycle : Cycle}
    (ho : (rewire s.graph n c.references).2 = .error cycle) :
    SameState s (s.replace n c).2 := by
  rw [replace_of_error ho]
  exact ⟨⟨rfl, rfl, fun x y => pair_restore h.graph n _ x y⟩, rfl, rfl⟩

lemma Consistent.closesCycle_of_error {cycle : Cycle}
    (ho : (rewire s.graph n c.references).2 = .error cycle) :
    ClosesCycle s.graph n c.references cycle := by
  refine ⟨cycle_path_of_rewire h.graph n _ h.acyclic ho, ?_⟩
  exact (isCycle_of_rewire h.graph n _ ho).isChain.imp fun x y =>
    (pair_rewire h.graph n c.references x y).mp

lemma Consistent.replace_circular_iff {cell : String} {cycle : Cycle} :
    (s.replace n c).1 = .error (.circular cell cycle) ↔
      cell = n ∧ (rewire s.graph n c.references).2 = .error cycle := by
  rcases replace_cases h.graph n c with ⟨cycle', ho⟩ | ⟨order, ho⟩
  · rw [replace_of_error ho, ho]
    constructor
    · intro he
      obtain ⟨rfl, rfl⟩ := EditError.circular.inj (Except.error.inj he)
      exact ⟨rfl, rfl⟩
    · rintro ⟨rfl, he⟩
      rw [Except.error.inj he]
  · rw [replace_of_ok ho, ho]
    constructor
    · intro he
      cases show Except.ok (n :: order) = .error (EditError.circular cell cycle) from he
    · rintro ⟨-, he⟩
      cases he

lemma Consistent.exists_circular_iff :
    (∃ cell cycle, (s.replace n c).1 = .error (.circular cell cycle)) ↔
      ∃ x ∈ c.references, ReflTransGen s.graph.Pair n x := by
  simp only [h.replace_circular_iff n c, exists_and_left, exists_eq_left]
  exact rewire_error_iff h.graph n c.references h.acyclic

lemma Consistent.formula_circular_iff (f : Formula) :
    (∃ cell cycle, (s.replace n (.formula f)).1 = .error (.circular cell cycle)) ↔
      ∃ x ∈ f.variableNames, x = n ∨ TransGen (fun x y => y ∈ s.graph.dependents x) n x := by
  rw [h.exists_circular_iff n (.formula f)]
  constructor
  · rintro ⟨x, hx, hnx⟩
    exact ⟨x, hx, reflTransGen_iff_eq_or_transGen.mp hnx⟩
  · rintro ⟨x, hx, hnx⟩
    exact ⟨x, hx, reflTransGen_iff_eq_or_transGen.mpr hnx⟩

lemma Consistent.replace_ok_of_not_formula (hc : c.formula? = none) :
    ∃ order, (s.replace n c).1 = .ok order := by
  have hnil : c.references = [] := by
    cases c with
    | text s => rfl
    | number x => rfl
    | formula f => cases hc
  rcases replace_cases h.graph n c with ho | ⟨order, ho⟩
  · rw [rewire_error_iff h.graph n _ h.acyclic, hnil] at ho
    obtain ⟨x, hx, -⟩ := ho
    exact (List.not_mem_nil hx).elim
  · rw [replace_of_ok ho]
    exact ⟨n :: order, rfl⟩

end Rewire

lemma formula?_eq_some {c : Contents} {f : Formula} : c.formula? = some f ↔ c = .formula f := by
  constructor
  · intro h
    cases c with
    | text s => cases h
    | number x => cases h
    | formula g => rw [Option.some.inj h]
  · rintro rfl
    rfl

lemma set_of_ok {s : Sheet} {name input n : String} {c : Contents}
    (hn : s.rules.resolve name = some n) (hc : Contents.ofInput s.rules input = .ok c) :
    s.set name input = s.replace n c := by
  unfold set interpret resolve
  rw [hn]
  dsimp only
  rw [hc]

lemma set_of_invalid {s : Sheet} {name input n : String} {e : FormatError}
    (hn : s.rules.resolve name = some n) (hc : Contents.ofInput s.rules input = .error e) :
    s.set name input = (.error (.invalidFormula e), s) := by
  unfold set interpret resolve
  rw [hn]
  dsimp only
  rw [hc]

variable {rules : NameRules} {version : String} {s : Sheet} {name n : String}

theorem Reachable.circular_iff (h : Reachable rules version s) (hn : rules.resolve name = some n)
    (input : String) :
    ((∃ cell cycle, (s.set name input).1 = .error (.circular cell cycle)) ↔
      ∃ f, Contents.ofInput rules input = .ok (.formula f) ∧ ∃ x ∈ f.variableNames,
        x = n ∨ TransGen (fun x y => y ∈ s.graph.dependents x) n x) ∧
    (∀ c, Contents.ofInput rules input = .ok c → c.formula? = none →
      ∃ order, (s.set name input).1 = .ok order) ∧
    ∀ cell cycle, (s.set name input).1 = .error (.circular cell cycle) →
      cell = n ∧ SameState s (s.set name input).2 ∧
      ∃ f, Contents.ofInput rules input = .ok (.formula f) ∧
        ClosesCycle s.graph n f.variableNames cycle := by
  have hs := h.consistent
  obtain ⟨rfl, -, -⟩ := h.with_invariant (consistent_invariant rules version)
  cases hc : Contents.ofInput s.rules input with
  | error e =>
    rw [set_of_invalid hn hc]
    exact ⟨by simp, by simp, by simp⟩
  | ok c =>
    rw [set_of_ok hn hc]
    cases hf : c.formula? with
    | none =>
      obtain ⟨order, ho⟩ := hs.replace_ok_of_not_formula n c hf
      rw [ho]
      refine ⟨⟨by simp, ?_⟩, fun _ _ _ => ⟨order, rfl⟩, by simp⟩
      rintro ⟨f, hcf, -⟩
      rw [Except.ok.inj hcf] at hf
      cases hf
    | some f =>
      obtain rfl := formula?_eq_some.mp hf
      refine ⟨?_, ?_, fun cell cycle he => ?_⟩
      · rw [hs.formula_circular_iff n f]
        constructor
        · exact fun hx => ⟨f, rfl, hx⟩
        · rintro ⟨f', hf', hx⟩
          obtain rfl := Contents.formula.inj (Except.ok.inj hf')
          exact hx
      · intro c' hc' hf'
        rw [← Except.ok.inj hc'] at hf'
        cases hf'
      · obtain ⟨rfl, ho⟩ := (hs.replace_circular_iff n (.formula f)).mp he
        exact ⟨rfl, hs.sameState_of_error cell _ ho, f, rfl, hs.closesCycle_of_error cell _ ho⟩

theorem circular_iff_of_sum_of_dependents :
    ∃ s, s = ((empty .standard "1.0").set "b1" "=a1").2 ∧ Reachable .standard "1.0" s ∧
      NameRules.standard.resolve "a1" = some "A1" ∧
      (∃ f, Contents.ofInput .standard "=b1+b1" = .ok (.formula f) ∧ ∃ x ∈ f.variableNames,
        x = "A1" ∨ TransGen (fun x y => y ∈ s.graph.dependents x) "A1" x) ∧
      SameState s (s.set "a1" "=b1+b1").2 := by
  refine ⟨_, rfl, ?_⟩
  have h := (@Reachable.empty .standard "1.0").set "b1" "=a1"
  have hn : NameRules.standard.resolve "a1" = some "A1" := by decide +kernel
  have hset : (((empty .standard "1.0").set "b1" "=a1").2.set "a1" "=b1+b1").1 =
      .error (.circular "A1" ⟨["A1", "B1", "A1"]⟩) := by cbv
  obtain ⟨hiff, -, hreport⟩ := h.circular_iff hn "=b1+b1"
  exact ⟨h, hn, hiff.mp ⟨_, _, hset⟩, (hreport _ _ hset).2.1⟩

end Spreadsheet.Sheet
