import Spreadsheet.Markup.Entity
import Spreadsheet.Proofs.Text.Span

namespace Spreadsheet.Markup

lemma escapeChar_cases (c : Char) :
    (∃ name, escapeChar c = '&' :: name ++ [';'] ∧ name.all Char.isAlpha = true ∧
      referenced name = .ok c) ∨
    escapeChar c = [c] ∧ c ≠ '&' ∧ c ≠ '<' ∧ c ≠ '>' ∧ c ≠ '"' := by
  rw [escapeChar]
  split_ifs with hlt hgt hamp hapos hquot
  · exact Or.inl ⟨"lt".toList, by subst hlt; decide⟩
  · exact Or.inl ⟨"gt".toList, by subst hgt; decide⟩
  · exact Or.inl ⟨"amp".toList, by subst hamp; decide⟩
  · exact Or.inl ⟨"apos".toList, by subst hapos; decide⟩
  · exact Or.inl ⟨"quot".toList, by subst hquot; decide⟩
  · exact Or.inr ⟨rfl, hamp, hlt, hgt, hquot⟩

lemma unescapeFrom_name {name read : List Char} {d : Char} (h : name.all Char.isAlpha = true)
    (hd : referenced (read.reverse ++ name) = .ok d) (cs : List Char) :
    unescapeFrom (some read) (name ++ ';' :: cs) = (unescapeFrom none cs).map (d :: ·) := by
  induction name generalizing read with
  | nil =>
    rw [List.append_nil] at hd
    simp only [List.nil_append, unescapeFrom, if_true, hd]
  | cons c name ih =>
    obtain ⟨hc, hname⟩ := Bool.and_eq_true_iff.mp h
    have hsemicolon : c ≠ ';' := Text.ne_of_class hc rfl
    have hampersand : c ≠ '&' := Text.ne_of_class hc rfl
    rw [List.cons_append, unescapeFrom, if_neg hsemicolon, if_neg hampersand]
    apply ih hname
    rw [List.reverse_cons, List.append_assoc]
    exact hd

lemma unescape_escapeChar (c : Char) (cs : List Char) :
    unescape (escapeChar c ++ cs) = (unescape cs).map (c :: ·) := by
  rcases escapeChar_cases c with ⟨name, hname, halpha, href⟩ | ⟨hself, hc, -⟩
  · rw [hname, unescape, List.cons_append, List.cons_append, List.append_assoc, unescapeFrom]
    have href' : referenced (([] : List Char).reverse ++ name) = .ok c := href
    exact unescapeFrom_name halpha href' cs
  · rw [hself, unescape, List.singleton_append, unescapeFrom]
    exact if_neg hc

theorem unescape_escape (cs : List Char) : unescape (escape cs) = .ok cs := by
  induction cs with
  | nil => rfl
  | cons c cs ih =>
    rw [escape, List.flatMap_cons, unescape_escapeChar, ← escape, ih]
    rfl

lemma ne_of_mem_escape {c : Char} {cs : List Char} (h : c ∈ escape cs) :
    c ≠ '<' ∧ c ≠ '>' ∧ c ≠ '"' := by
  obtain ⟨d, -, hd⟩ := List.mem_flatMap.mp h
  rcases escapeChar_cases d with ⟨name, hname, halpha, -⟩ | ⟨hself, -, hne⟩
  · rw [hname, List.cons_append, List.mem_cons, List.mem_append, List.mem_singleton] at hd
    rcases hd with rfl | hd | rfl
    · decide
    · have hc := List.all_eq_true.mp halpha c hd
      exact ⟨Text.ne_of_class hc rfl, Text.ne_of_class hc rfl, Text.ne_of_class hc rfl⟩
    · decide
  · rw [hself] at hd
    rw [List.mem_singleton.mp hd]
    exact hne

end Spreadsheet.Markup
