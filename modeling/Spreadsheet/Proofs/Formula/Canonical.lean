import Mathlib
import Spreadsheet.Proofs.Except
import Spreadsheet.Proofs.Formula.Grammar
import Spreadsheet.Proofs.Formula.Lexeme

/-! Formulas that are written without blanks are read back token by token: in a formula nothing that
could prolong a number or a variable comes right after it. -/

namespace Spreadsheet

open Lexeme

namespace Token

def kind : Token → Lexeme.Kind
  | .leftParen => .leftParen
  | .rightParen => .rightParen
  | .operator op => .operator op
  | .number .. => .number
  | .variable _ => .variable

structure Readable (resolve : String → Option String) (t : Token) : Prop where
  spelled : Spelled t.kind t.text.toList
  ofLexeme : Token.ofLexeme resolve ⟨t.kind, t.text.toList⟩ = .ok t

variable {resolve again : String → Option String}

def SettlesFor (resolve again : String → Option String) : Prop :=
  ∀ cs name, Spelled .variable cs → resolve (String.ofList cs) = some name →
    Spelled .variable name.toList ∧ again name = some name

def Settles (resolve : String → Option String) : Prop := SettlesFor resolve resolve

lemma readable_of_ofLexeme (hr : SettlesFor resolve again) {l : Lexeme} {t : Token}
    (hl : l.kind ≠ .invalid → Spelled l.kind l.text) (h : Token.ofLexeme resolve l = .ok t) :
    Readable again t := by
  obtain ⟨kind, cs⟩ := l
  cases kind with
  | leftParen =>
    obtain rfl : Token.leftParen = t := Except.ok.inj h
    exact ⟨.leftParen, rfl⟩
  | rightParen =>
    obtain rfl : Token.rightParen = t := Except.ok.inj h
    exact ⟨.rightParen, rfl⟩
  | operator op =>
    obtain rfl : Token.operator op = t := Except.ok.inj h
    exact ⟨by cases op <;> exact .operator _, rfl⟩
  | «variable» =>
    cases hname : resolve (String.ofList cs) with
    | none =>
      simp [Token.ofLexeme, hname] at h
    | some name =>
      simp only [Token.ofLexeme, hname] at h
      obtain rfl : Token.variable name = t := Except.ok.inj h
      obtain ⟨hspelled, hself⟩ := hr cs name (hl fun h => by cases h) hname
      refine ⟨hspelled, ?_⟩
      simp [Token.ofLexeme, kind, text, hself]
  | number =>
    cases hvalue : Decimal.readNumber? (String.ofList cs) with
    | none =>
      simp [Token.ofLexeme, hvalue] at h
    | some value =>
      simp only [Token.ofLexeme, hvalue] at h
      obtain rfl : Token.number (String.ofList cs) value = t := Except.ok.inj h
      refine ⟨?_, ?_⟩
      · rw [text, String.toList_ofList]
        exact hl fun h => by cases h
      · simp [Token.ofLexeme, kind, text, hvalue]
  | invalid => cases h

lemma ofLexeme_eq_variable_iff {l : Lexeme} {name : String} :
    Token.ofLexeme resolve l = .ok (.variable name) ↔
      l.kind = .variable ∧ resolve (String.ofList l.text) = some name := by
  obtain ⟨kind, cs⟩ := l
  cases kind with
  | «variable» => cases h : resolve (String.ofList cs) <;> simp [ofLexeme, h]
  | number => cases h : Decimal.readNumber? (String.ofList cs) <;> simp [ofLexeme, h]
  | _ => simp [ofLexeme]

lemma ends_of_not_opensOperand {t : Token} (h : t.opensOperand = false) (rest : List Char) :
    Ends (t.text.toList ++ rest) := by
  cases t with
  | leftParen => cases h
  | number => cases h
  | «variable» => cases h
  | rightParen =>
    intro c hc
    obtain rfl : ')' = c := Option.some.inj hc
    exact ⟨rfl, by decide, by decide⟩
  | operator op =>
    intro c hc
    cases op <;>
    · obtain rfl := Option.some.inj hc
      exact ⟨rfl, by decide, by decide⟩

def lexeme (t : Token) : Lexeme := ⟨t.kind, t.text.toList⟩

def Alternate (a b : Token) : Prop := b.opensOperand = !a.closesOperand

lemma closesOperand_of_isOpen {t : Token} (h : t.kind.isOpen = true) : t.closesOperand = true := by
  cases t with
  | number => rfl
  | «variable» => rfl
  | leftParen => cases h
  | rightParen => cases h
  | operator => cases h

inductive Spaced : List Token → List Char → Prop
  | nil {blanks : List Char} (hb : ∀ c ∈ blanks, Text.isBlank c = true) : Spaced [] blanks
  | cons {blanks rest : List Char} {t : Token} {ts : List Token}
    (hb : ∀ c ∈ blanks, Text.isBlank c = true) (h : Spaced ts rest) :
    Spaced (t :: ts) (blanks ++ (t.text.toList ++ rest))

lemma spaced_flatMap (ts : List Token) : Spaced ts (ts.flatMap fun t => t.text.toList) := by
  induction ts with
  | nil => exact .nil fun c hc => (List.not_mem_nil hc).elim
  | cons t ts ih => exact .cons (fun c hc => (List.not_mem_nil hc).elim) ih

namespace Spaced

variable {ts : List Token} {cs : List Char}

lemma ends (h : Spaced ts cs) (hts : ∀ t ∈ ts.head?, t.opensOperand = false) : Ends cs := by
  have hblank {c : Char} {cs : List Char} (hb : ∀ d ∈ c :: cs, Text.isBlank d = true)
      (rest : List Char) : Ends (c :: rest) := ends_of_isBlank (hb c List.mem_cons_self)
  cases h with
  | nil hb =>
    cases cs with
    | nil => exact fun c hc => by cases hc
    | cons c cs => exact hblank hb cs
  | @cons blanks rest t ts hb h =>
    cases blanks with
    | nil => exact ends_of_not_opensOperand (hts t rfl) rest
    | cons c blanks => exact hblank hb _

lemma cuts (h : Spaced ts cs) (hts : ∀ t ∈ ts, Readable resolve t) (hc : ts.IsChain Alternate) :
    Cuts cs (ts.map lexeme) := by
  -- the tokens need no blanks between them: what follows a number or a variable opens no operand,
  -- and so begins with nothing that could prolong it
  induction h with
  | @nil blanks hb =>
    rw [← List.append_nil blanks]
    exact Cuts.nil.blanks hb Text.stops_nil
  | @cons blanks rest t ts hb h ih =>
    obtain ⟨ht, hts⟩ := List.forall_mem_cons.mp hts
    have hends : t.kind.isOpen = true → Ends rest := by
      intro ho
      apply h.ends
      intro u hu
      have halternate : u.opensOperand = !t.closesOperand := hc.rel_head? hu
      rwa [closesOperand_of_isOpen ho] at halternate
    have hstops : Text.Stops Text.isBlank (t.text.toList ++ rest) := by
      obtain ⟨c, cs, hcs⟩ := List.exists_cons_of_ne_nil ht.spelled.ne_nil
      rw [hcs]
      exact Text.stops_cons.mpr (ht.spelled.not_isBlank c (hcs ▸ List.mem_cons_self))
    exact ((ih hts hc.tail).spelled ht.spelled hends).blanks hb hstops

end Spaced

end Token

namespace Formula

open Token

variable {resolve : String → Option String} {ts : List Token}

lemma alternate_of_fault? {c : Checked} {t u : Token} (ht : c.last = some t) {final : Bool}
    (h : c.fault? u final = none) : Alternate t u := by
  have hopens := (Checked.fault?_eq_none_iff.mp h).1
  rwa [Checked.awaits, ht] at hopens

lemma chain_of_checkFrom {c : Checked} {t : Token} (ht : c.last = some t)
    (h : checkFrom c ts = .ok ()) : (t :: ts).IsChain Alternate := by
  induction ts generalizing c t with
  | nil => exact List.isChain_singleton t
  | cons u us ih =>
    rw [checkFrom] at h
    split at h
    · cases h
    · rename_i hfault
      exact List.isChain_cons_cons.mpr ⟨alternate_of_fault? ht hfault, ih rfl h⟩

lemma chain_of_check (h : check ts = .ok ()) : ts.IsChain Alternate := by
  rw [check] at h
  split at h
  · cases h
  · cases ts with
    | nil => exact List.isChain_nil
    | cons t ts =>
      rw [checkFrom] at h
      split at h
      · cases h
      · exact chain_of_checkFrom rfl h

lemma ofTokens_eq_ok_iff {f : Formula} : ofTokens ts = .ok f ↔ ts = f.tokens := by
  rw [ofTokens]
  constructor
  · intro h
    split at h
    · rw [← Except.ok.inj h]
    · cases h
  · rintro rfl
    split
    · rfl
    · rename_i hf
      cases hf.symm.trans f.valid

lemma ofTokens_eq_error_iff {e : FormatError} : ofTokens ts = .error e ↔ check ts = .error e := by
  rw [ofTokens]
  split
  · rename_i h
    simp [h]
  · rename_i h
    simp [h]

lemma parseWith_eq_ok_iff {text : String} {f : Formula} : parseWith resolve text = .ok f ↔
    (tokenize text).map (Token.ofLexeme resolve) = f.tokens.map .ok := by
  rw [← List.mapM_eq_ok_iff, parseWith]
  cases (tokenize text).mapM (Token.ofLexeme resolve) with
  | error e => simp
  | ok ts => simp [ofTokens_eq_ok_iff]

theorem parseWith_spaced {f : Formula} (h : ∀ t ∈ f.tokens, Readable resolve t) {cs : List Char}
    (hcs : Spaced f.tokens cs) : parseWith resolve (String.ofList cs) = .ok f := by
  have hlexemes : tokenize (String.ofList cs) = f.tokens.map lexeme := by
    rw [tokenize, String.toList_ofList]
    exact (hcs.cuts h (chain_of_check f.valid)).scan_eq
  rw [parseWith_eq_ok_iff, hlexemes, List.map_map]
  exact List.map_congr_left fun t ht => (h t ht).ofLexeme

theorem parseWith_canonical {f : Formula} (h : ∀ t ∈ f.tokens, Readable resolve t) :
    parseWith resolve f.canonical = .ok f := parseWith_spaced h (spaced_flatMap f.tokens)

lemma exists_lexeme_of_parseWith {text : String} {f : Formula}
    (h : parseWith resolve text = .ok f) {t : Token} (ht : t ∈ f.tokens) :
    ∃ l ∈ tokenize text, Token.ofLexeme resolve l = .ok t := by
  have hok : Except.ok t ∈ (tokenize text).map (Token.ofLexeme resolve) := by
    rw [parseWith_eq_ok_iff.mp h]
    exact List.mem_map_of_mem ht
  exact List.mem_map.mp hok

lemma readable_of_parseWith {again : String → Option String} (hr : SettlesFor resolve again)
    {text : String} {f : Formula} (h : parseWith resolve text = .ok f) :
    ∀ t ∈ f.tokens, Readable again t := by
  intro t ht
  obtain ⟨l, hl, hlt⟩ := exists_lexeme_of_parseWith h ht
  exact readable_of_ofLexeme hr (spelled_of_mem_scan hl) hlt

lemma not_isBlank_of_mem_canonical {f : Formula} (h : ∀ t ∈ f.tokens, Readable resolve t)
    {c : Char} (hc : c ∈ f.canonical.toList) : Text.isBlank c = false := by
  rw [canonical, written, String.toList_ofList] at hc
  obtain ⟨t, ht, hct⟩ := List.mem_flatMap.mp hc
  exact (h t ht).spelled.not_isBlank c hct

end Formula

end Spreadsheet
