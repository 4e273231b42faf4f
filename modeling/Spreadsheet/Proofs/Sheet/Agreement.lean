import Spreadsheet.Proofs.Formula.Reparse
import Spreadsheet.Proofs.Sheet.Circular
import Spreadsheet.Proofs.Sheet.Contents

namespace Spreadsheet.Sheet

section Check

variable {s : Sheet}

lemma tryFormula_fst (s : Sheet) (n : String) (f : Formula) : (s.tryFormula n f).1 =
    ((rewire s.graph n f.variableNames).2.map fun _ => ()).mapError (.circular n) := by
  simp only [tryFormula]
  cases (rewire s.graph n f.variableNames).2 <;> rfl

lemma Consistent.tryFormula_eq (hs : s.Consistent) (n : String) (f : Formula) :
    (s.tryFormula n f).1 = (s.replace n (.formula f)).1.map fun _ => () := by
  have htry : (s.tryFormula n f).1 = ((rewire s.graph n (Contents.formula f).references).2.map
    fun _ => ()).mapError (.circular n) := s.tryFormula_fst n f
  rcases replace_cases hs.graph n (.formula f) with ⟨cycle, ho⟩ | ⟨order, ho⟩
  · rw [htry, replace_of_error ho, ho]
    rfl
  · rw [htry, replace_of_ok ho, ho]
    rfl

lemma Consistent.map_replace (hs : s.Consistent) (n : String) {c : Contents}
    (hc : c.formula? = none) : (s.replace n c).1.map (fun _ => ()) = .ok () := by
  obtain ⟨order, ho⟩ := hs.replace_ok_of_not_formula n c hc
  rw [ho]
  rfl

lemma Consistent.check_eq (hs : s.Consistent) (name input : String) :
    (s.check name input).1 = (s.set name input).1.map fun _ => () := by
  unfold check set interpret resolve
  cases s.rules.resolve name with
  | none => rfl
  | some n =>
    dsimp only
    cases Contents.ofInput s.rules input with
    | error e => rfl
    | ok c =>
      cases c with
      | formula f => exact hs.tryFormula_eq n f
      | text t => exact (hs.map_replace n rfl).symm
      | number x => exact (hs.map_replace n rfl).symm

theorem Reachable.check_foretells_set {rules : NameRules} {version : String}
    (h : Reachable rules version s) (name input : String) :
    ((s.check name input).1 = .ok () ↔ ∃ order, (s.set name input).1 = .ok order) ∧
    ∀ e, (s.check name input).1 = .error e ↔ (s.set name input).1 = .error e := by
  rw [h.consistent.check_eq]
  cases (s.set name input).1 with
  | ok order => exact ⟨iff_of_true rfl ⟨order, rfl⟩, fun e => iff_of_false nofun nofun⟩
  | error e =>
    refine ⟨iff_of_false nofun nofun, fun e' => ?_⟩
    simp [Except.map]

theorem check_foretells_set_of_clearing_and_cycle :
    ∃ s, s = ((empty .standard "1.0").set "b1" "=a1+c1").2 ∧ Reachable .standard "1.0" s ∧
      (∃ order, (s.set "b1" " ").1 = .ok order) ∧
      (s.set "a1" "=d1*b1").1 = .error (.circular "A1" ⟨["A1", "B1", "A1"]⟩) := by
  have h := (@Reachable.empty .standard "1.0").set "b1" "=a1+c1"
  have hclear : (((empty .standard "1.0").set "b1" "=a1+c1").2.check "b1" " ").1 = .ok () := by cbv
  have hcycle : (((empty .standard "1.0").set "b1" "=a1+c1").2.check "a1" "=d1*b1").1 =
      .error (.circular "A1" ⟨["A1", "B1", "A1"]⟩) := by cbv
  exact ⟨_, rfl, h, (h.check_foretells_set "b1" " ").1.mp hclear,
    ((h.check_foretells_set "a1" "=d1*b1").2 _).mp hcycle⟩

end Check

theorem setFormula_of_parse {text : String} {f : Formula} (hf : Formula.parse text = .ok f)
    (s : Sheet) (name : String) : s.setFormula name f = s.set name ("=" ++ text) := by
  have hparse : Formula.parseWithRules s.rules f.canonical = Formula.parseWithRules s.rules text :=
    Formula.parseWith_canonical_eq hf s.rules.resolve
  unfold setFormula set interpret
  rw [ofInput_equals, hparse]
  cases s.resolve name with
  | error e => rfl
  | ok n => cases Formula.parseWithRules s.rules text <;> rfl

theorem setFormula_of_parse_of_blanks :
    ∃ s f, s = ((empty .standard "1.0").set "b1" "=a1").2 ∧
      Formula.parse "c1 +(b1 )\t" = .ok f ∧ f.canonical = "c1+(b1)" ∧
      s.setFormula "d1" f = s.set "d1" "=c1 +(b1 )\t" ∧
      (s.setFormula "a1" f).1 = .error (.circular "A1" ⟨["A1", "B1", "A1"]⟩) := by
  have hparse : (Formula.parse "c1 +(b1 )\t").map Formula.canonical = .ok "c1+(b1)" := by
    decide +kernel
  obtain ⟨f, hf, hcanonical⟩ := Except.map_eq_ok_iff.mp hparse
  refine ⟨_, f, rfl, hf, hcanonical, setFormula_of_parse hf _ "d1", ?_⟩
  rw [setFormula_of_parse hf]
  cbv

end Spreadsheet.Sheet
