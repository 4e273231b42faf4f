import Spreadsheet.Proofs.Sheet.History

namespace Spreadsheet

open Relation

lemma ofInput_eq_text {rules : NameRules} {input t : String}
    (h : Contents.ofInput rules input = .ok (.text t)) : t = input ∧
      (∀ x, Decimal.readNumber? (Text.trimmed input) = some x → x.isFinite = false) ∧
      (Text.trimmed input).toList.head? ≠ some '=' := by
  simp only [Contents.ofInput] at h
  split at h
  · cases h
  · rename_i hno
    split at h
    · rename_i cs _
      cases hf : Formula.parseWithRules rules (String.ofList cs) with
      | error e =>
        rw [hf] at h
        cases h
      | ok f =>
        rw [hf] at h
        cases h
    · rename_i hhead
      refine ⟨(Contents.text.inj (Except.ok.inj h)).symm, fun x hx => ?_, fun heq => ?_⟩
      · rw [hx, Option.filter_eq_none_iff] at hno
        exact Bool.eq_false_iff.mpr (hno x rfl)
      · obtain ⟨cs, hcs⟩ := List.head?_eq_some_iff.mp heq
        exact hhead cs hcs

namespace Formula

lemma resolved_of_parseWith {resolve : String → Option String} {text : String} {f : Formula}
    (h : parseWith resolve text = .ok f) {x : String} (hx : x ∈ f.variableNames) :
    ∃ name, resolve name = some x := by
  rw [variableNames, List.mem_eraseDups, List.mem_filterMap] at hx
  obtain ⟨t, ht, htx⟩ := hx
  cases t with
  | «variable» name =>
    obtain rfl : name = x := Option.some.inj htx
    obtain ⟨l, -, hl⟩ := exists_lexeme_of_parseWith h ht
    exact ⟨_, (Token.ofLexeme_eq_variable_iff.mp hl).2⟩
  | _ => cases htx

end Formula

namespace Sheet

inductive Storable (rules : NameRules) : Contents → Prop
  | text {t : String} (blank : Text.isBlankText t = false)
    (number : ∀ x, Decimal.readNumber? (Text.trimmed t) = some x → x.isFinite = false)
    (formula : (Text.trimmed t).toList.head? ≠ some '=') : Storable rules (.text t)
  | number {x : Float} (finite : x.isFinite = true) : Storable rules (.number x)
  | formula {f : Formula} (names : ∀ x ∈ f.variableNames, ∃ name, rules.resolve name = some x) :
    Storable rules (.formula f)

lemma Entered.storable {rules : NameRules} {c : Contents} (h : Entered rules c)
    (hblank : c.isBlank = false) : Storable rules c := by
  rcases h with ⟨input, hinput⟩ | ⟨text, f, hf, rfl⟩
  · rcases ofInput_cases hinput with ⟨x, hx, rfl⟩ | ⟨text, f, hf, rfl⟩ | rfl
    · exact .number hx
    · exact .formula fun x => Formula.resolved_of_parseWith hf
    · obtain ⟨-, hnumber, hformula⟩ := ofInput_eq_text hinput
      exact .text hblank hnumber hformula
  · exact .formula fun x => Formula.resolved_of_parseWith hf

section Reentered

variable {rules : NameRules} {s : Sheet} {n : String} {c : Contents}

lemma names_stored_same {cells : Cells} (hc : cells.contents? n = some c)
    (hblank : c.isBlank = false) : (cells.stored n c).names = cells.names := by
  have hn : n ∈ cells.names := by
    by_contra hn
    rw [Cells.contents?, (Cells.get?_eq_none cells n).mpr hn] at hc
    cases hc
  rw [Cells.stored, store, hblank, if_neg Bool.false_ne_true, Cells.names_put, if_pos hn]

lemma contents?_stored_same {cells : Cells} (hc : cells.contents? n = some c)
    (hblank : c.isBlank = false) : (cells.stored n c).contents? = cells.contents? := by
  funext m
  rw [Cells.contents?_stored, hblank, if_neg Bool.false_ne_true]
  split
  · rename_i hm
    rw [hm, hc]
  · rfl

lemma Consistent.replace_same (h : s.Consistent) (hc : s.cells.contents? n = some c)
    (hblank : c.isBlank = false) :
    ∃ order t, s.replace n c = (.ok order, t) ∧ SameDocument s t := by
  rcases replace_cases h.graph n c with hcycle | ⟨rest, ho⟩
  · obtain ⟨x, hx, hnx⟩ := (rewire_error_iff h.graph n _ h.acyclic).mp hcycle
    have hxn : s.graph.Pair x n := (h.mirrors x n).mpr ⟨c, hc, hx⟩
    exact (h.acyclic n (.tail' hnx hxn)).elim
  · refine ⟨n :: rest, (s.replace n c).2, Prod.ext ?_ rfl, ?_⟩
    · rw [replace_of_ok ho]
    · apply h.sameDocument (h.replace n c) (s.rules_replace n c).1
      · rw [names_replace_of_ok ho, names_stored_same hc hblank]
      · rw [contents?_replace_of_ok ho, contents?_stored_same hc hblank]

lemma Enterable.set_inputText (h : Enterable s.rules s) (hr : s.rules.Idempotent)
    (hc : s.cells.contents? n = some c) :
    ∃ order t, s.set n c.inputText = (.ok order, t) ∧ SameDocument s t := by
  obtain ⟨⟨name, hname⟩, hentered, hblank⟩ := h.entered hc
  rw [set_of_ok (hr _ _ hname) (Contents.ofInput_inputText hr hentered)]
  exact h.toConsistent.replace_same hc hblank

end Reentered

variable {rules : NameRules} {version : String} {s : Sheet}

lemma History.kept {m : Moment} {past : List Moment} (h : History rules version m past) :
    m.Kept past := by
  induction h with
  | start => exact .start rules version []
  | set _ name input ih => exact ih.set name input
  | setFormula _ name f ih => exact ih.setFormula name f
  | @check m _ _ name input ih =>
    rcases m.sheet.check_cases name input with hs | ⟨n, f, -, -, hs⟩
    · rw [hs]
      exact ih.with_sheet ih.consistent rfl
    · rw [hs]
      refine ih.with_sheet (ih.consistent.tryFormula n f) ?_
      rw [tryFormula_snd]
  | load _ text ih => exact ih.load _
  | loadFile _ path files ih => exact ih.load _
  | @save m _ _ σ _ path files ih =>
    rcases m.sheet.save_cases path files with hs | hs
    · rw [hs]
      exact ih.with_sheet ih.consistent rfl
    · rw [hs]
      exact ih.with_sheet ih.consistent.saved rfl

lemma Reachable.exists_history (h : Reachable rules version s) :
    ∃ store past, History rules version ⟨s, store⟩ past := by
  induction h with
  | empty => exact ⟨_, _, .start⟩
  | set _ name input ih =>
    obtain ⟨store, past, ih⟩ := ih
    have hnext := ih.set name input
    rw [← Moment.sheet_set ⟨_, store⟩]
    exact ⟨_, _, hnext⟩
  | setFormula _ name f ih =>
    obtain ⟨store, past, ih⟩ := ih
    have hnext := ih.setFormula name f
    rw [← Moment.sheet_setFormula ⟨_, store⟩]
    exact ⟨_, _, hnext⟩
  | check _ name input ih =>
    obtain ⟨store, past, ih⟩ := ih
    exact ⟨_, _, ih.check name input⟩
  | @load s _ text ih =>
    obtain ⟨store, past, ih⟩ := ih
    have hnext := ih.load text
    have hsheet := Moment.sheet_load ⟨s, store⟩ past (.ok text)
    change Moment.sheet _ = (s.load text).2 at hsheet
    rw [← hsheet]
    exact ⟨_, _, hnext⟩
  | @loadFile s _ σ _ path files ih =>
    obtain ⟨store, past, ih⟩ := ih
    have hnext := ih.loadFile path files
    have hsheet := Moment.sheet_load ⟨s, store⟩ past ((readFile path : StateM σ _).run files).1
    change Moment.sheet _ = ((s.loadFile path : StateM σ _).run files).1.2 at hsheet
    rw [← hsheet]
    exact ⟨_, _, hnext⟩
  | save _ path files ih =>
    obtain ⟨store, past, ih⟩ := ih
    exact ⟨_, _, ih.save path files⟩

theorem Reachable.stored_in_order (h : Reachable rules version s) :
    (∃ store past, History rules version ⟨s, store⟩ past) ∧
    (∀ store past, History rules version ⟨s, store⟩ past →
      store.Represents s.cells ∧ Moment.Ordered ⟨s, store⟩ past) ∧
    (∀ n c, s.storedContents n = some c →
      (∃ name, rules.resolve name = some n) ∧ Storable rules c) ∧
    (rules.Idempotent → ∀ n c, s.storedContents n = some c →
      ∃ order t, s.set n c.inputText = (.ok order, t) ∧ SameDocument s t) := by
  obtain ⟨rfl, -, hs⟩ := h.with_invariant (enterable_invariant rules version)
  refine ⟨h.exists_history, fun store past hist => ?_, fun n c hc => ?_, fun hr n c hc => ?_⟩
  · exact ⟨hist.kept.represents, hist.kept.ordered⟩
  · obtain ⟨hn, hentered, hblank⟩ := hs.entered hc
    exact ⟨hn, hentered.storable hblank⟩
  · exact hs.set_inputText hr hc

theorem stored_in_order_of_refilled_cell :
    ∃ m past, m = ((((Moment.start Config.standard.nameRules "1.0").set "a1" "one").set
        "b1" "=a1").set "a1" " ").set "a1" "two" ∧
      Reachable Config.standard.nameRules "1.0" m.sheet ∧
      History Config.standard.nameRules "1.0" m past ∧ m.store.listed = ["B1", "A1"] ∧
      m.Ordered past ∧ Storable Config.standard.nameRules (.text "two") ∧
      ∃ order t, m.sheet.set "A1" "two" = (.ok order, t) ∧ SameDocument m.sheet t := by
  have hist := (@History.start Config.standard.nameRules "1.0").set "a1" "one"
    |>.set "b1" "=a1" |>.set "a1" " " |>.set "a1" "two"
  have h := (@Reachable.empty Config.standard.nameRules "1.0").set "a1" "one"
    |>.set "b1" "=a1" |>.set "a1" " " |>.set "a1" "two"
  obtain ⟨m, hm⟩ : ∃ m, m = ((((Moment.start Config.standard.nameRules "1.0").set "a1" "one").set
    "b1" "=a1").set "a1" " ").set "a1" "two" := ⟨_, rfl⟩
  have hsheet : m.sheet = (((((empty Config.standard.nameRules "1.0").set "a1" "one").2.set
      "b1" "=a1").2.set "a1" " ").2.set "a1" "two").2 := by
    rw [hm]
    simp only [Moment.sheet_set]
    rfl
  rw [← hm] at hist
  rw [← hsheet] at h
  have hnames : m.sheet.cells.names = ["B1", "A1"] := by
    rw [hsheet]
    cbv
  have htwo : m.sheet.storedContents "A1" = some (.text "two") := by
    rw [hsheet]
    cbv
  obtain ⟨-, hstore, hcontents, hagain⟩ := h.stored_in_order
  obtain ⟨hrepresents, hordered⟩ := hstore _ _ hist
  have hlisted := hrepresents.listed.trans hnames
  have hsame := hagain (Config.idempotent_nameRules .standard) _ _ htwo
  exact ⟨m, _, hm, h, hist, hlisted, hordered, (hcontents _ _ htwo).2, hsame⟩

end Sheet

end Spreadsheet
