import Mathlib
import Spreadsheet.Cell

namespace Spreadsheet

variable {lookup lookup' : String → Option Float}

lemma Evaluation.Stacks.step_congr (s : Stacks) (t : Token)
    (h : ∀ name, t.reference? = some name → lookup name = lookup' name) :
    s.step lookup t = s.step lookup' t := by
  cases t with
  | «variable» name => simp only [step, h name rfl]
  | _ => rfl

lemma Evaluation.run_congr (s : Stacks) (ts : List Token)
    (h : ∀ name ∈ ts.filterMap Token.reference?, lookup name = lookup' name) :
    run lookup s ts = run lookup' s ts := by
  induction ts generalizing s with
  | nil => rfl
  | cons t ts ih =>
    have ht (name : String) (hn : t.reference? = some name) : lookup name = lookup' name :=
      h name (List.mem_filterMap.mpr ⟨t, List.mem_cons_self, hn⟩)
    have hts (s : Stacks) : run lookup s ts = run lookup' s ts := by
      apply ih s
      intro name hn
      obtain ⟨u, hu, hun⟩ := List.mem_filterMap.mp hn
      exact h name (List.mem_filterMap.mpr ⟨u, List.mem_cons_of_mem t hu, hun⟩)
    simp only [run, s.step_congr t ht, hts]

lemma Formula.evaluate_congr (f : Formula)
    (h : ∀ name ∈ f.variableNames, lookup name = lookup' name) :
    f.evaluate lookup = f.evaluate lookup' := by
  have ht (name : String) (hn : name ∈ f.tokens.filterMap Token.reference?) :
      lookup name = lookup' name := h name (List.mem_eraseDups.mpr hn)
  simp only [evaluate, evaluateTokens, Evaluation.run_congr .empty f.tokens ht]

lemma Contents.value_congr (c : Contents) (h : ∀ name ∈ c.references, lookup name = lookup' name) :
    c.value lookup = c.value lookup' := by
  cases c with
  | text s => rfl
  | number x => rfl
  | formula f => exact congrArg Value.ofResult (f.evaluate_congr h)

end Spreadsheet
