import Spreadsheet.Proofs.Decimal.RoundTrip
import Spreadsheet.Proofs.Formula.Blanks
import Spreadsheet.Proofs.Formula.Names
import Spreadsheet.Proofs.Sheet.Reachable

namespace Spreadsheet

open Sheet (Entered)

variable {rules : NameRules}

lemma ofInput_numberText {x : Float} (h : x.isFinite = true) :
    Contents.ofInput rules (Decimal.numberText x) = .ok (.number x) := by
  have htrim : Text.trimmed (Decimal.numberText x) = Decimal.numberText x :=
    Text.trimmed_of_not_blank fun c => Decimal.not_isBlank_of_mem_numberText h
  simp [Contents.ofInput, htrim, Decimal.readNumber?_numberText h, Option.filter, h]

lemma toList_equals (s : String) : ("=" ++ s).toList = '=' :: s.toList := by
  rw [String.toList_append]
  rfl

lemma readNumber?_equals (s : String) : Decimal.readNumber? ("=" ++ s) = none := by
  have hword {d : Char} {ds : List Char} (hd : '=' ≠ d) :
      String.ofList (('=' :: s.toList).map Char.toLower) ≠ String.ofList (d :: ds) := by
    intro h
    exact hd (List.cons.inj (String.ofList_injective h)).1
  have hinf : String.ofList (('=' :: s.toList).map Char.toLower) ≠ "inf" := hword (by decide)
  have hinfinity : String.ofList (('=' :: s.toList).map Char.toLower) ≠ "infinity" :=
    hword (by decide)
  have hnan : String.ofList (('=' :: s.toList).map Char.toLower) ≠ "nan" := hword (by decide)
  have hread : Decimal.Numeral.read? ('=' :: s.toList) = none := rfl
  rw [Decimal.readNumber?, toList_equals]
  change Decimal.readMagnitude? false ('=' :: s.toList) = none
  simp only [Decimal.readMagnitude?, hinf, hinfinity, hnan, or_self, if_false, hread,
    Option.map_none]

lemma trimmed_equals (s : String) :
    Text.trimmed ("=" ++ s) = "=" ++ String.ofList (Text.trimEnd s.toList) := by
  have hstart : Text.trimStart ('=' :: s.toList) = '=' :: s.toList := rfl
  have hequals : Text.Stops Text.isBlank ['='] := Text.stops_cons.mpr rfl
  rw [← String.toList_inj, toList_equals, Text.trimmed, toList_equals, Text.trim, hstart,
    Text.trimEnd, List.reverse_cons, Text.dropWhile_append_of_stops hequals, List.reverse_append,
    String.toList_ofList, String.toList_ofList]
  rfl

lemma ofInput_equals (s : String) : Contents.ofInput rules ("=" ++ s) =
    (Formula.parseWithRules rules s).map .formula := by
  have hparse : Formula.parseWithRules rules (String.ofList (Text.trimEnd s.toList)) =
      Formula.parseWithRules rules s := by
    simp only [Formula.parseWithRules, Formula.parseWith, tokenize, String.toList_ofList,
      Lexeme.scan_trimEnd]
  simp only [Contents.ofInput, trimmed_equals, readNumber?_equals, Option.filter_none,
    toList_equals, String.ofList_toList, hparse]

lemma ofInput_canonical (hr : rules.Idempotent) {text : String} {f : Formula}
    (h : Formula.parseWithRules rules text = .ok f) :
    Contents.ofInput rules ("=" ++ f.canonical) = .ok (.formula f) := by
  have hreadable := Formula.readable_of_parseWith (NameRules.settles hr) h
  rw [ofInput_equals, Formula.parseWithRules, Formula.parseWith_canonical hreadable]
  rfl

lemma ofInput_cases {input : String} {c : Contents} (h : Contents.ofInput rules input = .ok c) :
    (∃ x, x.isFinite = true ∧ c = .number x) ∨
      (∃ text f, Formula.parseWithRules rules text = .ok f ∧ c = .formula f) ∨
      c = .text input := by
  simp only [Contents.ofInput] at h
  split at h
  · rename_i x hx
    exact Or.inl ⟨x, (Option.filter_eq_some_iff.mp hx).2, (Except.ok.inj h).symm⟩
  · split at h
    · rename_i cs hcs
      cases hf : Formula.parseWithRules rules (String.ofList cs) with
      | error e =>
        rw [hf] at h
        cases h
      | ok f =>
        rw [hf] at h
        exact Or.inr (Or.inl ⟨_, f, hf, (Except.ok.inj h).symm⟩)
    · exact Or.inr (Or.inr (Except.ok.inj h).symm)

lemma ofInput_of_isBlankText {input : String} (h : Text.isBlankText input = true) :
    Contents.ofInput rules input = .ok (.text input) := by
  have htrim : Text.trimmed input = "" := by
    rw [Text.trimmed, Text.trim, Text.trimStart,
      List.dropWhile_eq_nil_iff.mpr (List.all_eq_true.mp h)]
    rfl
  have hnumber : Decimal.readNumber? "" = none := by decide
  simp [Contents.ofInput, htrim, hnumber]

lemma isBlank_of_ofInput {input : String} {c : Contents}
    (h : Contents.ofInput rules input = .ok c) : c.isBlank = Text.isBlankText input := by
  cases hblank : Text.isBlankText input with
  | true =>
    rw [ofInput_of_isBlankText hblank] at h
    rw [← Except.ok.inj h]
    exact hblank
  | false =>
    rcases ofInput_cases h with ⟨x, -, rfl⟩ | ⟨text, f, -, rfl⟩ | rfl
    · rfl
    · rfl
    · exact hblank

theorem Contents.ofInput_inputText (hr : rules.Idempotent) {c : Contents} (hc : Entered rules c) :
    Contents.ofInput rules c.inputText = .ok c := by
  rcases hc with ⟨input, hinput⟩ | ⟨text, f, hf, rfl⟩
  · rcases ofInput_cases hinput with ⟨x, hx, rfl⟩ | ⟨text, f, hf, rfl⟩ | rfl
    · exact ofInput_numberText hx
    · exact ofInput_canonical hr hf
    · exact hinput
  · exact ofInput_canonical hr hf

end Spreadsheet
