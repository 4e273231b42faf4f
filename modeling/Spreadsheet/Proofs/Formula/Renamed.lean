import Mathlib
import Spreadsheet.Proofs.Except
import Spreadsheet.Proofs.Formula.Evaluation
import Spreadsheet.Proofs.Formula.Lookup
import Spreadsheet.Proofs.Formula.Reparse
import Spreadsheet.Proofs.Formula.Viable

/-! Renaming the variables of a formula. Neither the grammar nor the check looks at names, so that
parsing under rules is parsing the names as they are written and renaming them then. -/

section

variable {α β : Type} [DecidableEq α] [DecidableEq β]

lemma List.eraseDups_concat (as : List α) (a : α) :
    (as ++ [a]).eraseDups = if a ∈ as then as.eraseDups else as.eraseDups ++ [a] := by
  rw [List.eraseDups_append]
  split_ifs with ha
  · simp [List.removeAll, ha]
  · simp [List.removeAll, ha, List.eraseDups_cons]

lemma List.eraseDups_map_eraseDups (f : α → β) (as : List α) :
    (as.eraseDups.map f).eraseDups = (as.map f).eraseDups := by
  induction as using List.reverseRecOn with
  | nil => rfl
  | append_singleton as a ih =>
    rw [List.map_append, List.map_singleton, eraseDups_concat, eraseDups_concat]
    by_cases ha : a ∈ as
    · rw [if_pos ha, if_pos (List.mem_map_of_mem ha), ih]
    · have hmem : f a ∈ as.eraseDups.map f ↔ f a ∈ as.map f := by simp
      rw [if_neg ha, List.map_append, List.map_singleton, eraseDups_concat, ih]
      simp only [hmem]

end

namespace Spreadsheet

open Grammar Lexeme

def Fault.rename (σ : String → String) : Fault → Fault
  | undefinedVariable name => undefinedVariable (σ name)
  | fault => fault

def Token.rename (σ : String → String) : Token → Token
  | .variable name => .variable (σ name)
  | t => t

def Expr.rename (σ : String → String) : Expr → Expr
  | .number literal value => .number literal value
  | .variable name => .variable (σ name)
  | .binary op left right => .binary op (left.rename σ) (right.rename σ)

variable {σ : String → String}

namespace Token

lemma kind_rename (t : Token) : (t.rename σ).kind = t.kind := by
  cases t <;> rfl

lemma map_kind_rename (ts : List Token) :
    (ts.map (rename σ)).map kind = ts.map kind := by
  rw [List.map_map]
  exact List.map_congr_left fun t _ => kind_rename t

lemma reference?_rename (t : Token) : (t.rename σ).reference? = t.reference?.map σ := by
  cases t <;> rfl

end Token

lemma Grammar.Derives.rename {level : Level} {ts : List Token} {e : Expr}
    (h : Derives level ts e) : Derives level (ts.map (Token.rename σ)) (e.rename σ) := by
  induction h with
  | number literal value => exact .number literal value
  | «variable» name => exact .variable (σ name)
  | paren _ ih =>
    rw [List.map_append]
    exact .paren ih
  | factor _ ih => exact .factor ih
  | times _ hop _ iha ihb =>
    rw [List.map_append]
    exact .times iha hop ihb
  | product _ ih => exact .product ih
  | plus _ hop _ iha ihb =>
    rw [List.map_append]
    exact .plus iha hop ihb

lemma Expr.eval_rename (e : Expr) (lookup : String → Option Float) :
    (e.rename σ).eval lookup =
      (e.eval fun name => lookup (σ name)).mapError (Fault.rename σ) := by
  induction e with
  | number => rfl
  | «variable» name =>
    rw [rename, eval, eval]
    cases lookup (σ name) <;> rfl
  | binary op a b iha ihb =>
    rw [rename, eval_binary, eval_binary, iha, ihb]
    cases a.eval fun name => lookup (σ name) with
    | error => rfl
    | ok x =>
      cases b.eval fun name => lookup (σ name) with
      | error => rfl
      | ok y =>
        change op.combine x y = (op.combine x y).mapError _
        cases hz : op.combine x y with
        | ok => rfl
        | error fault =>
          rw [Operator.combine_error hz]
          rfl

namespace Formula

def rename (σ : String → String) (f : Formula) : Formula where
  tokens := f.tokens.map (Token.rename σ)
  valid := by
    obtain ⟨e, he⟩ := check_eq_ok_iff.mp f.valid
    exact check_eq_ok_iff.mpr ⟨_, he.rename⟩

lemma variableNames_rename (f : Formula) :
    (f.rename σ).variableNames = (f.variableNames.map σ).eraseDups := by
  have hreferences : (f.rename σ).tokens.filterMap Token.reference? =
      (f.tokens.filterMap Token.reference?).map σ := by
    rw [rename, List.filterMap_map, List.map_filterMap]
    exact List.filterMap_congr fun t _ => Token.reference?_rename t
  rw [variableNames, variableNames, hreferences, List.eraseDups_map_eraseDups]

lemma evaluate_rename (f : Formula) (lookup : String → Option Float) :
    (f.rename σ).evaluate lookup =
      (f.evaluate fun name => lookup (σ name)).mapError (Fault.rename σ) := by
  obtain ⟨e, he⟩ := check_eq_ok_iff.mp f.valid
  have hrename : Derives .sum (f.rename σ).tokens (e.rename σ) := he.rename
  rw [evaluate, evaluate, evaluateTokens_of_derives hrename, evaluateTokens_of_derives he,
    e.eval_rename]

end Formula

section Lexemes

variable {resolve : String → Option String}

def renamed (resolve : String → Option String) (name : String) : String :=
  (resolve name).getD name

inductive Lexeme.Refused (resolve : String → Option String) : Lexeme → FormatError → Prop
  | invalid (cs : List Char) :
    Refused resolve ⟨.invalid, cs⟩ (.invalidToken (String.ofList cs))
  | unresolved {cs : List Char} (h : resolve (String.ofList cs) = none) :
    Refused resolve ⟨.variable, cs⟩ (.invalidVariable (String.ofList cs))

namespace Token

def Resolved (resolve : String → Option String) (t : Token) : Prop :=
  ∀ name ∈ t.reference?, (resolve name).isSome = true

lemma ofLexeme_of_refused {l : Lexeme} {e : FormatError} (h : l.Refused resolve e) :
    ofLexeme resolve l = .error e := by
  cases h with
  | invalid => rfl
  | unresolved h => simp [ofLexeme, h]

lemma ofLexeme_eq_ok_iff {l : Lexeme} {u : Token} : ofLexeme resolve l = .ok u ↔
    ∃ t, ofLexeme some l = .ok t ∧ t.Resolved resolve ∧ t.rename (renamed resolve) = u := by
  obtain ⟨kind, cs⟩ := l
  cases kind with
  | «variable» =>
    cases h : resolve (String.ofList cs) <;>
      simp [ofLexeme, Resolved, rename, renamed, h, reference?]
  | number =>
    cases h : Decimal.readNumber? (String.ofList cs) <;>
      simp [ofLexeme, Resolved, rename, h, reference?]
  | _ => simp [ofLexeme, Resolved, rename, reference?]

lemma map_ofLexeme_eq_ok_iff {ls : List Lexeme} {us : List Token} :
    ls.map (ofLexeme resolve) = us.map .ok ↔ ∃ ts : List Token,
      ls.map (ofLexeme some) = ts.map .ok ∧ (∀ t ∈ ts, t.Resolved resolve) ∧
      ts.map (rename (renamed resolve)) = us := by
  induction ls generalizing us with
  | nil =>
    constructor
    · intro h
      exact ⟨[], rfl, by simp, (List.map_eq_nil_iff.mp h.symm).symm⟩
    · rintro ⟨ts, hts, -, rfl⟩
      rw [List.map_eq_nil_iff.mp hts.symm]
      rfl
  | cons l ls ih =>
    constructor
    · intro h
      obtain ⟨u, us, rfl, hu, hus⟩ := List.map_eq_cons_iff.mp h.symm
      obtain ⟨t, ht, hresolved, rfl⟩ := ofLexeme_eq_ok_iff.mp hu.symm
      obtain ⟨ts, hts, hall, rfl⟩ := ih.mp hus.symm
      refine ⟨t :: ts, ?_, List.forall_mem_cons.mpr ⟨hresolved, hall⟩, rfl⟩
      rw [List.map_cons, List.map_cons, ht, hts]
    · rintro ⟨ts, hts, hall, rfl⟩
      obtain ⟨t, ts, rfl, ht, hts⟩ := List.map_eq_cons_iff.mp hts.symm
      obtain ⟨hresolved, hall⟩ := List.forall_mem_cons.mp hall
      rw [List.map_cons, List.map_cons, List.map_cons,
        ofLexeme_eq_ok_iff.mpr ⟨t, ht.symm, hresolved, rfl⟩, ih.mpr ⟨ts, hts.symm, hall, rfl⟩]

lemma exists_ofLexeme_of_not_refused {l : Lexeme} (hl : l.kind ≠ .invalid → Spelled l.kind l.text)
    (h : ∀ e, ¬ l.Refused resolve e) : ∃ t, ofLexeme resolve l = .ok t := by
  obtain ⟨kind, cs⟩ := l
  have hk : kind ≠ .invalid := by
    rintro rfl
    exact h _ (.invalid cs)
  obtain ⟨t, ht, hlexeme⟩ := exists_ofLexeme hl hk
  refine ⟨_, ofLexeme_eq_ok_iff.mpr ⟨t, ht, fun name hname => ?_, rfl⟩⟩
  rw [Option.isSome_iff_ne_none]
  intro hnone
  cases t with
  | «variable» =>
    obtain rfl := Option.some.inj hname
    obtain ⟨rfl, rfl⟩ := Lexeme.mk.inj hlexeme
    apply h
    apply Lexeme.Refused.unresolved
    rwa [text, String.ofList_toList]
  | _ => cases hname

end Token

namespace Formula

variable {text : String}

lemma forall_resolved_iff (f : Formula) : (∀ t ∈ f.tokens, t.Resolved resolve) ↔
    ∀ name ∈ f.variableNames, (resolve name).isSome = true := by
  simp only [variableNames, List.mem_eraseDups, List.mem_filterMap, Token.Resolved]
  exact ⟨fun h name ⟨t, ht, hname⟩ => h t ht name hname,
    fun h t ht name hname => h name ⟨t, ht, hname⟩⟩

lemma check_of_rename {ts : List Token} (h : check (ts.map (Token.rename σ)) = .ok ()) :
    check ts = .ok () := by
  obtain ⟨e, he⟩ := check_eq_ok_iff.mp h
  exact check_eq_ok_iff.mpr (he.of_kinds (Token.map_kind_rename ts).symm)

theorem parseWith_eq_rename_iff {g : Formula} : parseWith resolve text = .ok g ↔
    ∃ f, parse text = .ok f ∧ (∀ name ∈ f.variableNames, (resolve name).isSome = true) ∧
      f.rename (renamed resolve) = g := by
  rw [parseWith_eq_ok_iff, Token.map_ofLexeme_eq_ok_iff]
  constructor
  · rintro ⟨ts, hts, hresolved, htokens⟩
    have hvalid : check ts = .ok () := check_of_rename (htokens ▸ g.valid)
    refine ⟨⟨ts, hvalid⟩, parseWith_eq_ok_iff.mpr hts, (forall_resolved_iff _).mp hresolved, ?_⟩
    rw [Formula.mk.injEq]
    exact htokens
  · rintro ⟨f, hf, hresolved, rfl⟩
    exact ⟨f.tokens, parseWith_eq_ok_iff.mp hf, (forall_resolved_iff f).mpr hresolved, rfl⟩

lemma parseWith_of_refused {before after : List Lexeme} {l : Lexeme} {e : FormatError}
    (htext : tokenize text = before ++ l :: after)
    (hbefore : ∀ l' ∈ before, ∀ e', ¬ l'.Refused resolve e') (hl : l.Refused resolve e) :
    parseWith resolve text = .error e := by
  have hmapM : (tokenize text).mapM (Token.ofLexeme resolve) = .error e := by
    rw [htext]
    apply List.mapM_eq_error _ (Token.ofLexeme_of_refused hl)
    intro l' hl'
    have hmem : l' ∈ tokenize text := htext ▸ List.mem_append_left _ hl'
    exact Token.exists_ofLexeme_of_not_refused (spelled_of_mem_tokenize hmem) (hbefore l' hl')
  rw [parseWith, hmapM]

lemma exists_tokens_of_not_refused (h : ∀ l ∈ tokenize text, ∀ e, ¬ l.Refused resolve e) :
    ∃ ts : List Token, ts.map Token.lexeme = tokenize text ∧ parse text = ofTokens ts ∧
      parseWith resolve text = ofTokens (ts.map (Token.rename (renamed resolve))) := by
  have hok : ∀ l ∈ tokenize text, ∃ u, Token.ofLexeme resolve l = .ok u :=
    fun l hl => Token.exists_ofLexeme_of_not_refused (spelled_of_mem_tokenize hl) (h l hl)
  obtain ⟨us, hus⟩ := List.exists_map_eq_map_ok hok
  obtain ⟨ts, hts, -, rfl⟩ := Token.map_ofLexeme_eq_ok_iff.mp hus
  refine ⟨ts, ?_, ?_, ?_⟩
  · exact Token.map_lexeme_of_map_ofLexeme (fun _ hl => spelled_of_mem_tokenize hl) hts
  · rw [parse, parseWith, List.mapM_eq_ok_iff.mpr hts]
  · rw [parseWith, List.mapM_eq_ok_iff.mpr hus]

end Formula

end Lexemes

section Places

def FormatError.unquoted : FormatError → FormatError
  | empty => empty
  | invalidToken _ => invalidToken ""
  | invalidVariable _ => invalidVariable ""
  | invalidStart _ => invalidStart ""
  | invalidEnd _ => invalidEnd ""
  | unmatchedClose position => unmatchedClose position
  | expectedOperand _ _ => expectedOperand "" ""
  | expectedOperator _ _ => expectedOperator "" ""
  | unbalanced opened closed => unbalanced opened closed

namespace Token

@[simp]
lemma opensOperand_rename (t : Token) : (t.rename σ).opensOperand = t.opensOperand := by
  cases t <;> rfl

@[simp]
lemma closesOperand_rename (t : Token) : (t.rename σ).closesOperand = t.closesOperand := by
  cases t <;> rfl

end Token

namespace Formula

namespace Checked

def rename (σ : String → String) (c : Checked) : Checked :=
  { c with last := c.last.map (Token.rename σ) }

lemma push_rename (c : Checked) (t : Token) :
    (c.rename σ).push (t.rename σ) = (c.push t).rename σ := by
  cases t <;> rfl

lemma awaits_rename (c : Checked) : (c.rename σ).awaits = c.awaits := by
  obtain ⟨last, length, opened, closed⟩ := c
  cases last <;> simp [rename, awaits]

lemma misplaced?_rename (c : Checked) (t : Token) :
    ((c.rename σ).misplaced? (t.rename σ)).map FormatError.unquoted =
      (c.misplaced? t).map FormatError.unquoted := by
  obtain ⟨last, length, opened, closed⟩ := c
  cases last with
  | none => rfl
  | some last =>
    simp only [rename, misplaced?, Option.map_some, Token.opensOperand_rename,
      Token.closesOperand_rename]
    split_ifs <;> rfl

lemma fault?_rename (c : Checked) (t : Token) (final : Bool) :
    ((c.rename σ).fault? (t.rename σ) final).map FormatError.unquoted =
      (c.fault? t final).map FormatError.unquoted := by
  have hfirst : (c.rename σ).last.isNone = c.last.isNone := Option.isNone_map
  have hopened : ((c.push t).rename σ).opened = (c.push t).opened := rfl
  have hclosed : ((c.push t).rename σ).closed = (c.push t).closed := rfl
  simp only [fault?, push_rename, hfirst, hopened, hclosed, Token.opensOperand_rename,
    Token.closesOperand_rename]
  split_ifs
  · rfl
  · rfl
  · rfl
  · exact misplaced?_rename c t

lemma exists_fault?_rename {c : Checked} {t : Token} {final : Bool} {e : FormatError}
    (h : c.fault? t final = some e) : ∃ e', (c.rename σ).fault? (t.rename σ) final = some e' ∧
      e'.unquoted = e.unquoted := by
  have hrename := c.fault?_rename (σ := σ) t final
  rw [h] at hrename
  exact Option.map_eq_some_iff.mp hrename

lemma readAll?_rename {c : Checked} {ts : List Token} (h : start.readAll? ts = some c) :
    start.readAll? (ts.map (Token.rename σ)) = some (c.rename σ) := by
  apply reading_induction (P := fun ts c =>
    start.readAll? (ts.map (Token.rename σ)) = some (c.rename σ)) rfl _ h
  intro ts c t hread hfault
  have hrename := c.fault?_rename (σ := σ) t false
  rw [hfault] at hrename
  rw [List.map_append]
  exact readAll?_concat_iff.mpr ⟨_, hread, Option.map_eq_none_iff.mp hrename, push_rename c t⟩

end Checked

lemma StopsAt.rename {ts : List Token} {i : ℕ} {e : FormatError} (h : StopsAt ts i e) :
    ∃ e', StopsAt (ts.map (Token.rename σ)) i e' ∧ e'.unquoted = e.unquoted := by
  cases h with
  | empty => exact ⟨_, .empty, rfl⟩
  | @token before after t c _ hread hfault =>
    obtain ⟨e', he', hunquoted⟩ := Checked.exists_fault?_rename (σ := σ) hfault
    have hempty : (after.map (Token.rename σ)).isEmpty = after.isEmpty := List.isEmpty_map
    rw [← hempty] at he'
    have hstop := StopsAt.token (Checked.readAll?_rename hread) he'
    rw [List.length_map] at hstop
    rw [List.map_append]
    exact ⟨e', hstop, hunquoted⟩
  | @finish _ c _ hread hlast hfinish =>
    have hstop := StopsAt.finish (Checked.readAll?_rename (σ := σ) hread)
      (c.awaits_rename.trans hlast) hfinish
    rw [List.length_map] at hstop
    exact ⟨e, hstop, rfl⟩

end Formula

end Places

namespace Formula

structure ResolvedTo (resolve : String → Option String) (f g : Formula) : Prop where
  tokens : g.tokens = f.tokens.map (Token.rename (renamed resolve))
  variableNames : g.variableNames = (f.variableNames.filterMap resolve).eraseDups
  evaluate (lookup : String → Option Float) : g.evaluate lookup =
    (f.evaluate fun name => (resolve name).bind lookup).mapError (Fault.rename (renamed resolve))

lemma resolvedTo_rename {resolve : String → Option String} {f : Formula}
    (h : ∀ name ∈ f.variableNames, (resolve name).isSome = true) :
    ResolvedTo resolve f (f.rename (renamed resolve)) := by
  have hsome : ∀ name ∈ f.variableNames, resolve name = some (renamed resolve name) :=
    fun name hname => (Option.some_get (h name hname)).symm.trans
      (congrArg some (Option.get_eq_getD _))
  refine ⟨rfl, ?_, fun lookup => ?_⟩
  · rw [variableNames_rename, List.filterMap_congr hsome, ← List.filterMap_eq_map]
    rfl
  · have hlookup : (f.evaluate fun name => lookup (renamed resolve name)) =
        f.evaluate fun name => (resolve name).bind lookup := by
      apply f.evaluate_congr
      intro name hname
      rw [hsome name hname]
      rfl
    rw [evaluate_rename, hlookup]

lemma exists_stopsAt_of_not_refused {resolve : String → Option String} {text : String}
    {e : FormatError} (hnone : ∀ l ∈ tokenize text, ∀ e, ¬ l.Refused resolve e)
    (h : parseWith resolve text = .error e) : ∃ ts i e', ts.map Token.lexeme = tokenize text ∧
      parse text = .error e' ∧ StopsAt ts i e' ∧
      StopsAt (ts.map (Token.rename (renamed resolve))) i e ∧ e.unquoted = e'.unquoted := by
  obtain ⟨ts, hlexemes, hparse, hrenamed⟩ := exists_tokens_of_not_refused hnone
  rw [hrenamed, ofTokens_eq_error_iff] at h
  obtain ⟨e', he'⟩ : ∃ e', check ts = .error e' := by
    cases hcheck : check ts with
    | error e' => exact ⟨e', rfl⟩
    | ok =>
      have hvalid := ((⟨ts, hcheck⟩ : Formula).rename (renamed resolve)).valid
      cases hvalid.symm.trans h
  obtain ⟨i, hstop⟩ := check_eq_error_iff.mp he'
  obtain ⟨e'', hstop', hunquoted⟩ := hstop.rename (σ := renamed resolve)
  obtain rfl := Except.error.inj (h.symm.trans hstop'.check_eq)
  exact ⟨ts, i, e', hlexemes, hparse.trans (ofTokens_eq_error_iff.mpr he'), hstop, hstop',
    hunquoted⟩

theorem parseWithRules_renames (rules : NameRules) (text : String) :
    ((∃ g, parseWithRules rules text = .ok g) ↔ ∃ f, parse text = .ok f ∧
      ∀ name ∈ f.variableNames, (rules.resolve name).isSome = true) ∧
    (∀ f g, parse text = .ok f → parseWithRules rules text = .ok g →
      ResolvedTo rules.resolve f g) ∧
    (∀ before l after e, tokenize text = before ++ l :: after →
      (∀ l' ∈ before, ∀ e', ¬ l'.Refused rules.resolve e') → l.Refused rules.resolve e →
      parseWithRules rules text = .error e) ∧
    ((∀ l ∈ tokenize text, ∀ e, ¬ l.Refused rules.resolve e) →
      ∀ e, parseWithRules rules text = .error e → ∃ ts i e',
        ts.map Token.lexeme = tokenize text ∧ parse text = .error e' ∧ StopsAt ts i e' ∧
        StopsAt (ts.map (Token.rename (renamed rules.resolve))) i e ∧
        e.unquoted = e'.unquoted) := by
  refine ⟨⟨?_, ?_⟩, ?_, ?_, ?_⟩
  · rintro ⟨g, hg⟩
    obtain ⟨f, hf, hresolved, -⟩ := parseWith_eq_rename_iff.mp hg
    exact ⟨f, hf, hresolved⟩
  · rintro ⟨f, hf, hresolved⟩
    exact ⟨_, parseWith_eq_rename_iff.mpr ⟨f, hf, hresolved, rfl⟩⟩
  · intro f g hf hg
    obtain ⟨f', hf', hresolved, rfl⟩ := parseWith_eq_rename_iff.mp hg
    obtain rfl := Except.ok.inj (hf.symm.trans hf')
    exact resolvedTo_rename hresolved
  · intro before l after e htext hbefore hl
    exact parseWith_of_refused htext hbefore hl
  · intro hnone e he
    exact exists_stopsAt_of_not_refused hnone he

theorem parseWithRules_renames_of_two_spellings :
    (∃ f g, parse "a1+A1" = .ok f ∧ parseWithRules .standard "a1+A1" = .ok g ∧
      f.variableNames = ["a1", "A1"] ∧ g.variableNames = ["A1"] ∧
      ResolvedTo NameRules.standard.resolve f g) ∧
    parseWithRules ⟨String.map Char.toUpper, fun name => name.length ≤ 2⟩ "a1+b10+é" =
      .error (.invalidVariable "b10") := by
  have hparse : (parse "a1+A1").map variableNames = .ok ["a1", "A1"] := by decide +kernel
  have hlower : NameRules.standard.resolve "a1" = some "A1" := by decide +kernel
  have hupper : NameRules.standard.resolve "A1" = some "A1" := by decide +kernel
  obtain ⟨f, hf, hnames⟩ := Except.map_eq_ok_iff.mp hparse
  obtain ⟨hok, hresolved, -, -⟩ := parseWithRules_renames .standard "a1+A1"
  obtain ⟨g, hg⟩ := hok.mpr ⟨f, hf, by simp [hnames, hlower, hupper]⟩
  have hfg := hresolved f g hf hg
  have hnames' : g.variableNames = ["A1"] := by
    have hresolve : ["a1", "A1"].filterMap NameRules.standard.resolve = ["A1", "A1"] := by
      simp [hlower, hupper]
    rw [hfg.variableNames, hnames, hresolve]
    rfl
  refine ⟨⟨f, g, hf, hg, hnames, hnames', hfg⟩, ?_⟩
  apply (parseWithRules_renames _ _).2.2.1 [⟨.variable, ['a', '1']⟩, ⟨.operator .add, ['+']⟩]
    ⟨.variable, ['b', '1', '0']⟩ [⟨.operator .add, ['+']⟩, ⟨.invalid, ['é']⟩]
  · decide +kernel
  · have hfirst : NameRules.resolve ⟨String.map Char.toUpper, fun name => name.length ≤ 2⟩
        (String.ofList ['a', '1']) = some "A1" := by decide +kernel
    simp only [List.forall_mem_cons]
    refine ⟨?_, ?_, by simp⟩
    · rintro e (_ | hnone)
      cases hfirst.symm.trans hnone
    · rintro e ⟨⟩
  · exact .unresolved (by decide +kernel)

end Formula

end Spreadsheet
