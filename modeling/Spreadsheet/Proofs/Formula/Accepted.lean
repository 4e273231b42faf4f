import Mathlib
import Spreadsheet.Proofs.Formula.Canonical
import Spreadsheet.Proofs.Formula.Literal

namespace Spreadsheet

open Grammar Lexeme

namespace Grammar

variable {level : Level} {ts us : List Token}

lemma exists_append_of_kinds {ts₁ ts₂ : List Token} {op : Operator}
    (h : us.map Token.kind = (ts₁ ++ .operator op :: ts₂).map Token.kind) :
    ∃ us₁ us₂, us = us₁ ++ .operator op :: us₂ ∧
      us₁.map Token.kind = ts₁.map Token.kind ∧ us₂.map Token.kind = ts₂.map Token.kind := by
  rw [List.map_append, List.map_cons] at h
  obtain ⟨us₁, vs, rfl, h₁, hvs⟩ := List.map_eq_append_iff.mp h
  obtain ⟨v, us₂, rfl, hv, h₂⟩ := List.map_eq_cons_iff.mp hvs
  cases v <;> cases hv
  exact ⟨us₁, us₂, rfl, h₁, h₂⟩

lemma Derives.of_kinds {e : Expr} (h : Derives level ts e)
    (hk : us.map Token.kind = ts.map Token.kind) : ∃ e', Derives level us e' := by
  induction h generalizing us with
  | number =>
    obtain ⟨u, rfl, hu⟩ := List.map_eq_singleton_iff.mp hk
    cases u <;> cases hu
    exact ⟨_, .number _ _⟩
  | «variable» =>
    obtain ⟨u, rfl, hu⟩ := List.map_eq_singleton_iff.mp hk
    cases u <;> cases hu
    exact ⟨_, .variable _⟩
  | paren _ ih =>
    rw [List.map_append, List.map_cons] at hk
    obtain ⟨vs, ws, rfl, hvs, hws⟩ := List.map_eq_append_iff.mp hk
    obtain ⟨v, us, rfl, hv, hus⟩ := List.map_eq_cons_iff.mp hvs
    obtain ⟨w, rfl, hw⟩ := List.map_eq_singleton_iff.mp hws
    obtain ⟨e, he⟩ := ih hus
    cases v <;> cases hv
    cases w <;> cases hw
    exact ⟨e, .paren he⟩
  | factor _ ih =>
    obtain ⟨e, he⟩ := ih hk
    exact ⟨e, .factor he⟩
  | product _ ih =>
    obtain ⟨e, he⟩ := ih hk
    exact ⟨e, .product he⟩
  | times _ hop _ iha ihb =>
    obtain ⟨us₁, us₂, rfl, h₁, h₂⟩ := exists_append_of_kinds hk
    obtain ⟨a, ha⟩ := iha h₁
    obtain ⟨b, hb⟩ := ihb h₂
    exact ⟨_, .times ha hop hb⟩
  | plus _ hop _ iha ihb =>
    obtain ⟨us₁, us₂, rfl, h₁, h₂⟩ := exists_append_of_kinds hk
    obtain ⟨a, ha⟩ := iha h₁
    obtain ⟨b, hb⟩ := ihb h₂
    exact ⟨_, .plus ha hop hb⟩

end Grammar

namespace Token

lemma exists_ofLexeme {l : Lexeme} (hl : l.kind ≠ .invalid → Spelled l.kind l.text)
    (hk : l.kind ≠ .invalid) : ∃ t, ofLexeme some l = .ok t ∧ t.lexeme = l := by
  obtain ⟨kind, cs⟩ := l
  have hspelled : Spelled kind cs := hl hk
  cases kind with
  | leftParen =>
    cases hspelled
    exact ⟨.leftParen, rfl, rfl⟩
  | rightParen =>
    cases hspelled
    exact ⟨.rightParen, rfl, rfl⟩
  | operator op =>
    cases hspelled
    exact ⟨.operator op, rfl, by cases op <;> rfl⟩
  | «variable» => exact ⟨.variable (String.ofList cs), rfl, by simp [lexeme, kind, text]⟩
  | number =>
    obtain ⟨v, hv⟩ := Decimal.exists_readNumber?_of_spelled hspelled
    refine ⟨.number (String.ofList cs) v, ?_, ?_⟩
    · simp [ofLexeme, hv]
    · simp [lexeme, kind, text]
  | invalid => exact (hk rfl).elim

lemma lexeme_of_ofLexeme {l : Lexeme} {t : Token}
    (hl : l.kind ≠ .invalid → Spelled l.kind l.text) (h : ofLexeme some l = .ok t) :
    l.kind ≠ .invalid ∧ t.lexeme = l := by
  have hk : l.kind ≠ .invalid := by
    intro hk
    rw [ofLexeme, hk] at h
    cases h
  obtain ⟨u, hu, hlu⟩ := exists_ofLexeme hl hk
  obtain rfl := Except.ok.inj (hu.symm.trans h)
  exact ⟨hk, hlu⟩

lemma readNumber?_of_ofLexeme {l : Lexeme} {literal : String} {value : Float}
    (h : ofLexeme some l = .ok (.number literal value)) :
    Decimal.readNumber? literal = some value := by
  obtain ⟨kind, cs⟩ := l
  cases kind with
  | number =>
    cases hv : Decimal.readNumber? (String.ofList cs) with
    | none => simp [ofLexeme, hv] at h
    | some v =>
      simp only [ofLexeme, hv] at h
      obtain ⟨rfl, rfl⟩ := Token.number.inj (Except.ok.inj h)
      exact hv
  | _ => cases h

lemma map_lexeme_of_map_ofLexeme {ls : List Lexeme} {ts : List Token}
    (hl : ∀ l ∈ ls, l.kind ≠ .invalid → Spelled l.kind l.text)
    (h : ls.map (ofLexeme some) = ts.map .ok) : ts.map lexeme = ls := by
  induction ls generalizing ts with
  | nil => rw [List.map_eq_nil_iff.mp h.symm, List.map_nil]
  | cons l ls ih =>
    obtain ⟨t, ts, rfl, ht, hts⟩ := List.map_eq_cons_iff.mp h.symm
    obtain ⟨hl₀, hls⟩ := List.forall_mem_cons.mp hl
    rw [List.map_cons, (lexeme_of_ofLexeme hl₀ ht.symm).2, ih hls hts.symm]

lemma exists_map_ofLexeme {ls : List Lexeme}
    (hl : ∀ l ∈ ls, l.kind ≠ .invalid → Spelled l.kind l.text)
    (hk : ∀ l ∈ ls, l.kind ≠ .invalid) :
    ∃ ts : List Token, ls.map (ofLexeme some) = ts.map .ok := by
  apply List.exists_map_eq_map_ok
  intro l hmem
  obtain ⟨t, ht, -⟩ := exists_ofLexeme (hl l hmem) (hk l hmem)
  exact ⟨t, ht⟩

end Token

namespace Formula

variable {text : String} {f : Formula}

lemma spelled_of_mem_tokenize {l : Lexeme} (hl : l ∈ tokenize text) (hk : l.kind ≠ .invalid) :
    Spelled l.kind l.text := spelled_of_mem_scan hl hk

lemma lexemes_of_parse (h : parse text = .ok f) : f.tokens.map Token.lexeme = tokenize text :=
  Token.map_lexeme_of_map_ofLexeme (fun _ hl => spelled_of_mem_tokenize hl)
    (parseWith_eq_ok_iff.mp h)

lemma exists_token_of_parse (h : parse text = .ok f) {l : Lexeme} (hl : l ∈ tokenize text) :
    ∃ t ∈ f.tokens, Token.ofLexeme some l = .ok t := by
  have hok := List.mem_map_of_mem (f := Token.ofLexeme some) hl
  rw [parseWith_eq_ok_iff.mp h] at hok
  obtain ⟨t, ht, htl⟩ := List.mem_map.mp hok
  exact ⟨t, ht, htl.symm⟩

lemma exists_parse_of_derives (hvalid : ∀ l ∈ tokenize text, l.kind ≠ .invalid) {us : List Token}
    (hus : us.map Token.lexeme = tokenize text) {e : Expr} (h : Derives .sum us e) :
    ∃ f, parse text = .ok f := by
  have hspelled : ∀ l ∈ tokenize text, l.kind ≠ .invalid → Spelled l.kind l.text :=
    fun _ hl => spelled_of_mem_tokenize hl
  obtain ⟨ts, hts⟩ := Token.exists_map_ofLexeme hspelled hvalid
  have hlexemes : ts.map Token.lexeme = us.map Token.lexeme :=
    (Token.map_lexeme_of_map_ofLexeme hspelled hts).trans hus.symm
  have hkinds : ts.map Token.kind = us.map Token.kind := by
    have hmap := congrArg (List.map Lexeme.kind) hlexemes
    rwa [List.map_map, List.map_map] at hmap
  exact ⟨⟨ts, check_eq_ok_iff.mpr (h.of_kinds hkinds)⟩, parseWith_eq_ok_iff.mpr hts⟩

lemma canonical_eq_flatMap (f : Formula) :
    f.canonical.toList = (f.tokens.map Token.lexeme).flatMap Lexeme.text := by
  rw [canonical, written, String.toList_ofList, List.flatMap_map]
  rfl

theorem parse_accepts_grammar (text : String) :
    ((∃ f, parse text = .ok f) ↔ (∀ l ∈ tokenize text, l.kind ≠ .invalid) ∧
      ∃ ts e, ts.map Token.lexeme = tokenize text ∧ Derives .sum ts e) ∧
    (∀ l ∈ tokenize text, l.kind = .number →
      ∃ value, Decimal.readNumber? (String.ofList l.text) = some value) ∧
    ∀ f, parse text = .ok f → f.tokens.map Token.lexeme = tokenize text ∧
      (∀ literal value, .number literal value ∈ f.tokens →
        Decimal.readNumber? literal = some value) ∧
      f.canonical.toList = (tokenize text).flatMap Lexeme.text := by
  refine ⟨⟨?_, ?_⟩, fun l hl hk => ?_, fun f h => ⟨lexemes_of_parse h, ?_, ?_⟩⟩
  · rintro ⟨f, h⟩
    obtain ⟨e, he⟩ := check_eq_ok_iff.mp f.valid
    refine ⟨fun l hl => ?_, f.tokens, e, lexemes_of_parse h, he⟩
    obtain ⟨t, -, ht⟩ := exists_token_of_parse h hl
    exact (Token.lexeme_of_ofLexeme (spelled_of_mem_tokenize hl) ht).1
  · rintro ⟨hvalid, us, e, hus, he⟩
    exact exists_parse_of_derives hvalid hus he
  · apply Decimal.exists_readNumber?_of_spelled
    rw [← hk]
    exact spelled_of_mem_tokenize hl (by simp [hk])
  · intro literal value hv
    obtain ⟨l, -, hl⟩ := exists_lexeme_of_parseWith h hv
    exact Token.readNumber?_of_ofLexeme hl
  · rw [canonical_eq_flatMap, lexemes_of_parse h]

end Formula

end Spreadsheet
