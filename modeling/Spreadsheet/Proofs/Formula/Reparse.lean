import Spreadsheet.Formula.Serialization
import Spreadsheet.Proofs.Formula.Accepted
import Spreadsheet.Proofs.Formula.Names

namespace Spreadsheet

open Lexeme Token

def TextFormat.Lawful {ε δ : Type} (format : TextFormat ε δ) : Prop :=
  ∀ text, ∃ data, format.write text = .ok data ∧ format.read data = .ok text

def TextFormat.quotes : TextFormat Unit (List Char) where
  write text := .ok ('"' :: text.toList ++ ['"'])
  read data :=
    match data with
    | '"' :: cs => if cs.getLast? = some '"' then .ok (String.ofList cs.dropLast) else .error ()
    | _ => .error ()

lemma TextFormat.lawful_quotes : TextFormat.quotes.Lawful := by
  intro text
  refine ⟨_, rfl, ?_⟩
  simp [quotes]

lemma NameRules.settlesFor (rules : NameRules) : SettlesFor rules.resolve some :=
  fun _ _ _ hname => ⟨spelled_of_isVariable (NameRules.resolve_eq_some.mp hname).2.1, rfl⟩

lemma Token.settles_some : Settles some := by
  intro cs name hcs hname
  obtain rfl := Option.some.inj hname
  rw [String.toList_ofList]
  exact ⟨hcs, rfl⟩

namespace Formula

def Parsed (f : Formula) : Prop :=
  (∃ text, parse text = .ok f) ∨ ∃ rules text, parseWithRules rules text = .ok f

namespace Parsed

variable {f g : Formula}

lemma readable (h : f.Parsed) : ∀ t ∈ f.tokens, Readable some t := by
  rcases h with ⟨text, h⟩ | ⟨rules, text, h⟩
  · exact readable_of_parseWith settles_some h
  · exact readable_of_parseWith rules.settlesFor h

lemma parse_canonical (h : f.Parsed) : parse f.canonical = .ok f := parseWith_canonical h.readable

lemma eq_of_canonical (hf : f.Parsed) (hg : g.Parsed) (h : g.canonical = f.canonical) : g = f := by
  have hparse := hg.parse_canonical
  rw [h, hf.parse_canonical] at hparse
  exact (Except.ok.inj hparse).symm

end Parsed

lemma parseWith_canonical_eq {text : String} {f : Formula} (h : parse text = .ok f)
    (resolve : String → Option String) :
    parseWith resolve f.canonical = parseWith resolve text := by
  -- the canonical text has the lexemes of the text that was parsed, so that any rules make the
  -- same of both
  have hparsed : f.Parsed := Or.inl ⟨text, h⟩
  have hlexemes : tokenize f.canonical = tokenize text := by
    rw [← lexemes_of_parse hparsed.parse_canonical, lexemes_of_parse h]
  rw [parseWith, parseWith, hlexemes]

end Formula

namespace Token.Readable

variable {t : Token}

lemma toBits_le {literal : String} {value : Float} (h : Readable some (.number literal value)) :
    value.toBits.toNat ≤ Decimal.infinityBits := by
  apply Decimal.toBits_le_of_spelled h.spelled
  rw [text, String.ofList_toList]
  exact readNumber?_of_ofLexeme h.ofLexeme

lemma beq_self (h : Readable some t) : (t == t) = true := by
  cases t with
  | leftParen => rfl
  | rightParen => rfl
  | operator op => exact beq_self_eq_true op
  | «variable» name => exact beq_self_eq_true name
  | number => exact Float.beq_self_iff.mpr (Decimal.ne_nan_of_toBits_le h.toBits_le)

end Token.Readable

namespace Formula

lemma beq_self_of_readable {ts : List Token} (h : ∀ t ∈ ts, Readable some t) :
    (ts == ts) = true := by
  induction ts with
  | nil => rfl
  | cons t ts ih =>
    obtain ⟨ht, hts⟩ := List.forall_mem_cons.mp h
    rw [List.cons_beq_cons, ht.beq_self, ih hts]
    rfl

theorem Parsed.survives_printing {f : Formula} (h : f.Parsed) :
    (∀ cs, Spaced f.tokens cs → parse (String.ofList cs) = .ok f) ∧
    parse f.canonical = .ok f ∧
    (∀ c ∈ f.canonical.toList, Text.isBlank c = false) ∧
    (∀ g : Formula, g.Parsed → g.canonical = f.canonical → g = f ∧ (g == f) = true) ∧
    ∀ {ε δ : Type} (format : TextFormat ε δ), format.Lawful →
      ∃ data, f.serialize format = .ok data ∧ deserialize format data = .ok f := by
  refine ⟨fun cs => parseWith_spaced h.readable, h.parse_canonical,
    fun c => not_isBlank_of_mem_canonical h.readable, fun g hg hgf => ?_,
    fun format hformat => ?_⟩
  · obtain rfl := h.eq_of_canonical hg hgf
    exact ⟨rfl, beq_self_of_readable h.readable⟩
  · obtain ⟨data, hwrite, hread⟩ := hformat f.canonical
    refine ⟨data, hwrite, ?_⟩
    rw [deserialize, hread]
    simp only [h.parse_canonical]
    rfl

theorem survives_printing_of_lower_case :
    ∃ f, parseWithRules (Config.nameRules ⟨none, .lower, none⟩) "2*E5" = .ok f ∧ f.Parsed ∧
      f.canonical = "2*e5" ∧ parse " 2 \t*e5\n" = .ok f ∧
      parse f.canonical = .ok f ∧ TextFormat.quotes.Lawful ∧
      ∃ data, f.serialize .quotes = .ok data ∧ deserialize .quotes data = .ok f := by
  have hparse : (parseWithRules (Config.nameRules ⟨none, .lower, none⟩) "2*E5").map
      (fun f => f.tokens.map Token.text) = .ok ["2", "*", "e5"] := by decide +kernel
  obtain ⟨f, hf, htexts⟩ := Except.map_eq_ok_iff.mp hparse
  obtain ⟨a, as, hts, ha, has⟩ := List.map_eq_cons_iff.mp htexts
  obtain ⟨b, bs, rfl, hb, hbs⟩ := List.map_eq_cons_iff.mp has
  obtain ⟨c, rfl, hc⟩ := List.map_eq_singleton_iff.mp hbs
  have h : f.Parsed := Or.inr ⟨_, _, hf⟩
  have hspaced : Spaced f.tokens ([' '] ++ (a.text.toList ++ ([' ', '\t'] ++ (b.text.toList ++
      ([] ++ (c.text.toList ++ ['\n'])))))) := by
    rw [hts]
    exact .cons (by simp [Text.isBlank]) (.cons (by simp [Text.isBlank]) (.cons (by simp)
      (.nil (by simp [Text.isBlank]))))
  rw [ha, hb, hc] at hspaced
  obtain ⟨hspacing, hcanonical, -, -, hformat⟩ := h.survives_printing
  refine ⟨f, hf, h, ?_, hspacing _ hspaced, hcanonical, TextFormat.lawful_quotes,
    hformat _ TextFormat.lawful_quotes⟩
  rw [canonical, written, hts]
  simp only [List.flatMap_cons, List.flatMap_nil, ha, hb, hc]
  rfl

end Formula

end Spreadsheet
