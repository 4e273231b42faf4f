import Spreadsheet.Proofs.Config.Names
import Spreadsheet.Proofs.Formula.Blanks
import Spreadsheet.Proofs.Formula.Placed
import Spreadsheet.Proofs.Sheet.Affected
import Spreadsheet.Proofs.Sheet.Circular
import Spreadsheet.Proofs.Sheet.Stored

namespace Spreadsheet

namespace Lexeme

open Text

variable {ps : List Piece} {cs text : List Char} {l : Lexeme}

lemma Laid.isBlank_of_nil (h : Laid ps cs) (hps : ps.filterMap ofPiece? = []) :
    ∀ c ∈ cs, isBlank c = true := by
  have htext := h.flatMap_text
  rw [hps] at htext
  intro c hc
  simpa using List.filter_eq_nil_iff.mp htext.symm c hc

lemma Laid.exists_blanks_around (h : Laid ps cs) (hl : ps.filterMap ofPiece? = [l]) :
    ∃ before after, cs = before ++ (l.text ++ after) ∧ (∀ c ∈ before, isBlank c = true) ∧
      ∀ c ∈ after, isBlank c = true := by
  induction h with
  | nil => cases hl
  | @cons p ps rest hp h ih =>
    cases hpiece : ofPiece? p with
    | some l' =>
      rw [List.filterMap_cons_some hpiece] at hl
      obtain ⟨rfl, hnil⟩ := List.cons.inj hl
      obtain ⟨kind, -, rfl⟩ := Option.map_eq_some_iff.mp hpiece
      exact ⟨[], rest, rfl, fun c hc => (List.not_mem_nil hc).elim, h.isBlank_of_nil hnil⟩
    | none =>
      rw [List.filterMap_cons_none hpiece] at hl
      obtain ⟨before, after, rfl, hbefore, hafter⟩ := ih hl
      cases hp with
      | @blanks blanks _ hblanks =>
        refine ⟨blanks ++ before, after, (List.append_assoc _ _ _).symm, ?_, hafter⟩
        exact List.forall_mem_append.mpr ⟨hblanks, hbefore⟩
      | spelled => cases hpiece
      | junk => cases hpiece

lemma scan_eq_singleton_iff {kind : Kind} (htext : Spelled kind text) :
    scan cs = [⟨kind, text⟩] ↔ trim cs = text := by
  rw [trim_eq_iff htext.ne_nil htext.not_isBlank]
  constructor
  · exact (laid_pieces cs).foldr_join.exists_blanks_around
  · rintro ⟨before, after, rfl, hbefore, hafter⟩
    have hcuts := Cuts.nil.blanks hafter stops_nil
    rw [List.append_nil] at hcuts
    have hends : Ends after := BlankFirst.ends fun c hc => hafter c (List.mem_of_head? hc)
    have hstops := stops_append htext.ne_nil htext.not_isBlank after
    exact ((hcuts.spelled htext fun _ => hends).blanks hbefore hstops).scan_eq

end Lexeme

open Lexeme

lemma tokenize_eq_variable_iff {s : String} {text : List Char} :
    tokenize s = [⟨.variable, text⟩] ↔ Spelled .variable text ∧ Text.trim s.toList = text := by
  constructor
  · intro h
    have hmem : ⟨.variable, text⟩ ∈ tokenize s := by
      rw [h]
      exact List.mem_singleton_self _
    have hspelled : Spelled .variable text := spelled_of_mem_scan hmem fun h => by cases h
    exact ⟨hspelled, (scan_eq_singleton_iff hspelled).mp h⟩
  · rintro ⟨hspelled, htrim⟩
    exact (scan_eq_singleton_iff hspelled).mpr htrim

lemma isVariable_iff_tokenize (s : String) :
    isVariable s = true ↔ tokenize s = [⟨.variable, s.toList⟩] := by
  rw [isVariable_iff_spelled, tokenize_eq_variable_iff, iff_self_and]
  exact fun h => Text.trim_of_not_blank h.not_isBlank

lemma NameRules.resolve_trimmed {rules : NameRules} {n : String}
    (h : isVariable (Text.trimmed n) = true) :
    rules.resolve (Text.trimmed n) = rules.resolve n := by
  have htrim := Text.trimmed_of_not_blank (spelled_of_isVariable h).not_isBlank
  rw [resolve, normalize, htrim]
  rfl

namespace Formula

lemma parseWithRules_eq_variable_iff {rules : NameRules} {n m : String} :
    (∃ f, parseWithRules rules n = .ok f ∧ f.tokens = [.variable m]) ↔
      isVariable (Text.trimmed n) = true ∧ rules.resolve n = some m := by
  constructor
  · rintro ⟨f, hf, hm⟩
    have hlexemes := parseWith_eq_ok_iff.mp hf
    rw [hm, List.map_singleton, List.map_eq_singleton_iff] at hlexemes
    obtain ⟨⟨kind, text⟩, hl, hlm⟩ := hlexemes
    obtain ⟨rfl, hname⟩ := Token.ofLexeme_eq_variable_iff.mp hlm
    obtain ⟨hspelled, rfl⟩ := tokenize_eq_variable_iff.mp hl
    have hn : isVariable (Text.trimmed n) = true := by
      rw [isVariable_iff_spelled, Text.trimmed, String.toList_ofList]
      exact hspelled
    exact ⟨hn, (NameRules.resolve_trimmed hn).symm.trans hname⟩
  · rintro ⟨hn, hm⟩
    have hspelled : Spelled .variable (Text.trim n.toList) := by
      have h := spelled_of_isVariable hn
      rwa [Text.trimmed, String.toList_ofList] at h
    have htokens := tokenize_eq_variable_iff.mpr ⟨hspelled, rfl⟩
    have htoken : Token.ofLexeme rules.resolve ⟨.variable, Text.trim n.toList⟩ =
        .ok (.variable m) :=
      Token.ofLexeme_eq_variable_iff.mpr ⟨rfl, (NameRules.resolve_trimmed hn).trans hm⟩
    refine ⟨⟨[.variable m], rfl⟩, ?_, rfl⟩
    rw [parseWithRules, parseWith_eq_ok_iff, htokens, List.map_singleton, List.map_singleton,
      htoken]

end Formula

namespace Sheet

def Settable (s : Sheet) (n m : String) : Prop :=
  ∃ input order, Text.isBlankText input = false ∧ (s.set n input).1 = .ok (m :: order)

lemma Consistent.settable_iff {s : Sheet} (hs : s.Consistent) {n m : String} :
    s.Settable n m ↔ s.rules.resolve n = some m := by
  constructor
  · rintro ⟨input, order, -, hset⟩
    rcases s.set_cases n input with ⟨e, he⟩ | ⟨n', c, hn, -, hc⟩
    · rw [he] at hset
      cases hset
    · rw [hc] at hset
      obtain ⟨rest, horder, -⟩ := replace_eq_ok hs.graph (Prod.ext hset rfl)
      rw [hn, (List.cons.inj horder).1]
  · intro hm
    have hx : Contents.ofInput s.rules "x" = .ok (.text "x") := by cbv
    obtain ⟨order, hset⟩ := hs.replace_ok_of_not_formula m (.text "x") rfl
    obtain ⟨rest, rfl, -⟩ := replace_eq_ok hs.graph (Prod.ext hset rfl)
    refine ⟨"x", rest, by decide +kernel, ?_⟩
    rw [set_of_ok hm hx, hset]

/-- The texts that name a cell are the ones that a formula refers to it by: letters and then digits
are one lexeme, and no other text is cut into one variable. So every cell that can be set can be
referred to by the same text, and every cell that an accepted formula refers to can be set. -/
theorem settable_iff_reference :
    (∀ s, isVariable s = true ↔ tokenize s = [⟨.variable, s.toList⟩]) ∧
    ∀ config : Config,
      (∀ n m, config.nameRules.resolve n = some m ↔
        ∃ f, Formula.parseWithRules config.nameRules n = .ok f ∧ f.tokens = [.variable m]) ∧
      ∀ version s, Reachable config.nameRules version s →
        (∀ n m, s.Settable n m ↔
          ∃ f, Formula.parseWithRules config.nameRules n = .ok f ∧ f.tokens = [.variable m]) ∧
        ∀ text f, Formula.parseWithRules config.nameRules text = .ok f →
          ∀ v ∈ f.variableNames, s.Settable v v := by
  refine ⟨isVariable_iff_tokenize, fun config => ?_⟩
  have hparse (n m : String) : config.nameRules.resolve n = some m ↔
      ∃ f, Formula.parseWithRules config.nameRules n = .ok f ∧ f.tokens = [.variable m] := by
    rw [Formula.parseWithRules_eq_variable_iff, iff_and_self]
    exact Config.isVariable_of_resolve
  refine ⟨hparse, fun version s h => ?_⟩
  have hsettable (n m : String) : s.Settable n m ↔ config.nameRules.resolve n = some m := by
    rw [h.consistent.settable_iff, h.rules_eq]
  refine ⟨fun n m => (hsettable n m).trans (hparse n m), fun text f hf v hv => ?_⟩
  obtain ⟨name, hname⟩ := Formula.resolved_of_parseWith hf hv
  exact (hsettable v v).mpr (config.idempotent_nameRules name v hname)

theorem settable_iff_reference_of_lower_case :
    ∃ (config : Config) (s : Sheet), config = ⟨none, .lower, some 100⟩ ∧
      s = ((empty config.nameRules "1.0").set "B07" "=(A1)").2 ∧
      Reachable config.nameRules "1.0" s ∧ tokenize "e5" = [⟨.variable, ['e', '5']⟩] ∧
      s.Settable " B07\n" "b07" ∧ s.Settable "a1" "a1" ∧
      ¬ ∃ f m, Formula.parseWithRules config.nameRules "A101" = .ok f ∧
        f.tokens = [.variable m] := by
  obtain ⟨config, hconfig⟩ : ∃ config : Config, config = ⟨none, .lower, some 100⟩ := ⟨_, rfl⟩
  obtain ⟨htokens, hrules⟩ := settable_iff_reference
  obtain ⟨hparse, hsheet⟩ := hrules config
  have h := (@Reachable.empty config.nameRules "1.0").set "B07" "=(A1)"
  obtain ⟨hsettable, hvariables⟩ := hsheet "1.0" _ h
  have hb : config.nameRules.resolve " B07\n" = some "b07" := by
    rw [hconfig]
    cbv
  have hf : Formula.parseWithRules config.nameRules "(A1)" =
      .ok ⟨[.leftParen, .variable "a1", .rightParen], rfl⟩ := by
    rw [hconfig]
    cbv
  have hnone : config.nameRules.resolve "A101" = none := by
    rw [hconfig]
    cbv
  refine ⟨config, _, hconfig, rfl, h, (htokens "e5").mp (by decide), ?_, ?_, ?_⟩
  · exact (hsettable _ _).mpr ((hparse _ _).mp hb)
  · exact hvariables _ _ hf "a1" (by decide)
  · rintro ⟨f, m, hf⟩
    cases hnone.symm.trans ((hparse "A101" m).mpr ⟨f, hf⟩)

end Sheet

end Spreadsheet
