import Spreadsheet.Proofs.Sheet.Circular

namespace Spreadsheet

open Relation

namespace Sheet

section Replace

variable {s s' : Sheet} {n : String} {c : Contents} {order : List String}

lemma replace_eq_ok (hs : s.graph.WellFormed) (h : s.replace n c = (.ok order, s')) :
    ∃ rest, order = n :: rest ∧ (rewire s.graph n c.references).2 = .ok (n :: rest) ∧
      s' = (s.replace n c).2 := by
  rcases replace_cases hs n c with ⟨cycle, ho⟩ | ⟨rest, ho⟩
  · rw [replace_of_error ho] at h
    cases (Prod.mk.inj h).1
  · have hs' : s' = (s.replace n c).2 := by rw [h]
    rw [replace_of_ok ho] at h
    exact ⟨rest, (Except.ok.inj (Prod.mk.inj h).1).symm, ho, hs'⟩

variable (hs : s.Consistent) {rest : List String}
  (ho : (rewire s.graph n c.references).2 = .ok (n :: rest))
include hs ho

end Replace

variable {rules : NameRules} {version : String} {s s' : Sheet} {name n : String}
  {order : List String}

end Sheet

end Spreadsheet
