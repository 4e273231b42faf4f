import Spreadsheet.Markup.Attribute
import Spreadsheet.Proofs.Text.Span

namespace Spreadsheet.Markup

variable {cs rest : List Char} {q : Char}

lemma splitTag_quoted (h : q ∉ cs) : splitTag (some q) (cs ++ q :: rest) =
    (splitTag none rest).map fun r => (cs ++ q :: r.1, r.2) := by
  induction cs with
  | nil =>
    rw [List.nil_append, splitTag, if_pos rfl]
    rfl
  | cons c cs ih =>
    obtain ⟨hc, hcs⟩ := List.ne_and_not_mem_of_not_mem_cons h
    rw [List.cons_append, splitTag, if_neg hc.symm, ih hcs, Option.map_map]
    rfl

lemma splitTag_plain {before : List Char}
    (h : (before.all fun c => c != '>' && !isQuote c) = true) :
    splitTag none (before ++ rest) = (splitTag none rest).map fun r => (before ++ r.1, r.2) := by
  induction before with
  | nil =>
    rw [List.nil_append]
    exact Option.map_id'.symm
  | cons c before ih =>
    obtain ⟨hc, hbefore⟩ := Bool.and_eq_true_iff.mp h
    obtain ⟨hend, hquote⟩ := Bool.and_eq_true_iff.mp hc
    have hplain : ¬(c = '"' ∨ c = '\'') := by
      rw [isQuote, Bool.not_eq_true', Bool.or_eq_false_iff, beq_eq_false_iff_ne,
        beq_eq_false_iff_ne] at hquote
      exact not_or.mpr hquote
    rw [List.cons_append, splitTag, if_neg (bne_iff_ne.mp hend), if_neg hplain, ih hbefore,
      Option.map_map]
    rfl

lemma splitTag_attribute (before : List Char)
    (h : (before.all fun c => c != '>' && !isQuote c) = true)
    (hcs : q ∉ cs) (hq : isQuote q = true) :
    splitTag none (before ++ q :: cs ++ q :: '>' :: rest) =
      some (before ++ q :: cs ++ [q], rest) := by
  have hmark : q = '"' ∨ q = '\'' := by
    rwa [isQuote, Bool.or_eq_true, beq_iff_eq, beq_iff_eq] at hq
  have hend : q ≠ '>' := by
    rintro rfl
    cases hq
  rw [List.append_assoc, splitTag_plain h, List.cons_append, splitTag, if_neg hend, if_pos hmark,
    splitTag_quoted hcs]
  simp [splitTag, consFirst]

end Spreadsheet.Markup
