import Spreadsheet.Proofs.Config.Reader
import Spreadsheet.Proofs.Formula.Literal
import Spreadsheet.Proofs.Formula.Names

/-! The names that the settings of a user allow. They are letters and then digits, spelled as the
settings say, with a row that is not beyond the largest one. -/

namespace Spreadsheet

open Lexeme

namespace Spelling

def letter : Spelling → Char → Char
  | upper => Char.toUpper
  | lower => Char.toLower
  | asWritten => id

section Letter

variable (spelling : Spelling) {c : Char}

lemma toList_apply (s : String) : (spelling.apply s).toList = s.toList.map spelling.letter := by
  cases spelling <;> simp [apply, letter]

lemma isAlpha_letter (c : Char) : (spelling.letter c).isAlpha = c.isAlpha := by
  cases spelling <;> simp [letter]

lemma letter_of_not_isAlpha (h : c.isAlpha = false) : spelling.letter c = c := by
  obtain ⟨hupper, hlower⟩ : c.isUpper = false ∧ c.isLower = false := by
    simpa [Char.isAlpha] using h
  cases spelling with
  | upper => exact Char.toUpper_eq_of_not_isLower (by simp [hlower])
  | lower => exact Char.toLower_eq_of_not_isUpper (by simp [hupper])
  | asWritten => rfl

lemma isDigit_letter (c : Char) : (spelling.letter c).isDigit = c.isDigit := by
  have hdigit {d : Char} (hd : d.isAlpha = true) : d.isDigit = false := by
    rw [Bool.eq_false_iff]
    intro h
    rw [isAlpha_of_isDigit h] at hd
    cases hd
  cases hc : c.isAlpha with
  | false => rw [spelling.letter_of_not_isAlpha hc]
  | true => rw [hdigit hc, hdigit ((spelling.isAlpha_letter c).trans hc)]

lemma map_letter_of_isDigit {digits : List Char} (hd : ∀ c ∈ digits, c.isDigit = true) :
    digits.map spelling.letter = digits := by
  have hid : ∀ c ∈ digits, spelling.letter c = id c := fun c hc =>
    spelling.letter_of_not_isAlpha (isAlpha_of_isDigit (hd c hc))
  rw [List.map_congr_left hid, List.map_id]

lemma isVariable_apply (s : String) : isVariable (spelling.apply s) = isVariable s := by
  have halpha : Char.isAlpha ∘ spelling.letter = Char.isAlpha := funext spelling.isAlpha_letter
  have hdigit : Char.isDigit ∘ spelling.letter = Char.isDigit := funext spelling.isDigit_letter
  simp only [isVariable, isVariableText, toList_apply, List.dropWhile_map, List.head?_map,
    Option.any_map, List.all_map, halpha, hdigit, isAlpha_letter, isDigit_letter]

lemma apply_eq_apply_iff (h : spelling ≠ .asWritten) {s t : String} :
    spelling.apply s = spelling.apply t ↔ s.map Char.toLower = t.map Char.toLower := by
  cases spelling with
  | lower => rfl
  | asWritten => exact (h rfl).elim
  | upper =>
    have hlower : Char.toLower ∘ Char.toUpper = Char.toLower :=
      funext Char.toLower_toUpper_eq_toLower
    have hupper : Char.toUpper ∘ Char.toLower = Char.toUpper :=
      funext Char.toUpper_toLower_eq_toUpper
    simp only [apply, ← String.toList_inj, String.toList_map]
    constructor
    · intro h
      rw [← hlower, ← List.map_map, h, List.map_map]
    · intro h
      rw [← hupper, ← List.map_map, h, List.map_map]

end Letter

end Spelling

structure Written (text : String) (letters digits : List Char) : Prop where
  trim : Text.trim text.toList = letters ++ digits
  isAlpha : ∀ c ∈ letters, c.isAlpha = true
  isDigit : ∀ c ∈ digits, c.isDigit = true
  letters_ne_nil : letters ≠ []
  digits_ne_nil : digits ≠ []

instance (text : String) (letters digits : List Char) : Decidable (Written text letters digits) :=
  decidable_of_iff (Text.trim text.toList = letters ++ digits ∧ letters.all Char.isAlpha = true ∧
      digits.all Char.isDigit = true ∧ letters ≠ [] ∧ digits ≠ []) <| by
    rw [List.all_eq_true, List.all_eq_true]
    exact ⟨fun ⟨ht, hl, hd, hl', hd'⟩ => ⟨ht, hl, hd, hl', hd'⟩,
      fun ⟨ht, hl, hd, hl', hd'⟩ => ⟨ht, hl, hd, hl', hd'⟩⟩

lemma Written.stops {text : String} {letters digits : List Char} (h : Written text letters digits) :
    Text.Stops Char.isAlpha digits :=
  fun c hc => isAlpha_of_isDigit (h.isDigit c (List.mem_of_head? hc))

lemma Written.unique {text : String} {letters digits letters' digits' : List Char}
    (h : Written text letters digits) (h' : Written text letters' digits') :
    letters = letters' ∧ digits = digits' := by
  have heq : letters ++ digits = letters' ++ digits' := h.trim.symm.trans h'.trim
  constructor
  · rw [← Text.takeWhile_append h.isAlpha h.stops, heq, Text.takeWhile_append h'.isAlpha h'.stops]
  · rw [← Text.dropWhile_append h.isAlpha h.stops, heq, Text.dropWhile_append h'.isAlpha h'.stops]

lemma isVariable_trimmed_iff {text : String} :
    isVariable (Text.trimmed text) = true ↔ ∃ letters digits, Written text letters digits := by
  rw [isVariable_iff_spelled, Text.trimmed, String.toList_ofList]
  constructor
  · intro h
    generalize htrim : Text.trim text.toList = cs at h
    cases h with
    | «variable» hl hd hl' hd' => exact ⟨_, _, htrim, hl, hd, hl', hd'⟩
  · rintro ⟨letters, digits, h⟩
    rw [h.trim]
    exact .variable h.isAlpha h.isDigit h.letters_ne_nil h.digits_ne_nil

namespace Config

def cellName (config : Config) (letters digits : List Char) : String :=
  String.ofList (letters.map config.spelling.letter ++ digits)

section Names

variable {config : Config} {text name : String} {letters digits : List Char}

lemma normalize_eq (config : Config) (h : Written text letters digits) :
    config.nameRules.normalize text = config.cellName letters digits := by
  rw [← String.toList_inj, NameRules.normalize]
  change (config.spelling.apply (Text.trimmed text)).toList = _
  rw [Spelling.toList_apply, Text.trimmed, String.toList_ofList, h.trim, List.map_append,
    config.spelling.map_letter_of_isDigit h.isDigit, cellName, String.toList_ofList]

lemma rowNumber?_cellName (h : Written text letters digits) :
    rowNumber? (config.cellName letters digits) =
      (some (Nat.ofDigitChars 10 digits 0)).filter fun n => decide (n < UInt64.size) := by
  have hletters : ∀ c ∈ letters.map config.spelling.letter, c.isAlpha = true := by
    intro c hc
    obtain ⟨d, hd, rfl⟩ := List.mem_map.mp hc
    rw [Spelling.isAlpha_letter]
    exact h.isAlpha d hd
  rw [rowNumber?, cellName, String.toList_ofList, Text.dropWhile_append hletters h.stops,
    Decimal.readDigits?_digits h.isDigit h.digits_ne_nil]

lemma accepts_cellName (h : Written text letters digits) :
    config.nameRules.accepts (config.cellName letters digits) = true ↔ ∀ maxRow ∈ config.maxRow?,
      Nat.ofDigitChars 10 digits 0 < UInt64.size ∧ Nat.ofDigitChars 10 digits 0 ≤ maxRow := by
  rw [nameRules]
  dsimp only
  cases config.maxRow? with
  | none => simp
  | some maxRow =>
    dsimp only
    rw [withinRow, rowNumber?_cellName h]
    simp [Option.filter_some, Option.any_eq_true]

lemma isVariable_of_resolve (h : config.nameRules.resolve text = some name) :
    isVariable (Text.trimmed text) = true := by
  obtain ⟨rfl, hvariable, -⟩ := NameRules.resolve_eq_some.mp h
  rw [← config.spelling.isVariable_apply]
  exact hvariable

lemma resolve_eq_some_iff : config.nameRules.resolve text = some name ↔
    ∃ letters digits, Written text letters digits ∧ (∀ maxRow ∈ config.maxRow?,
      Nat.ofDigitChars 10 digits 0 < UInt64.size ∧ Nat.ofDigitChars 10 digits 0 ≤ maxRow) ∧
      name = config.cellName letters digits := by
  constructor
  · intro hname
    obtain ⟨letters, digits, h⟩ := isVariable_trimmed_iff.mp (isVariable_of_resolve hname)
    obtain ⟨rfl, -, haccepts⟩ := NameRules.resolve_eq_some.mp hname
    rw [config.normalize_eq h] at haccepts ⊢
    exact ⟨letters, digits, h, (accepts_cellName h).mp haccepts, rfl⟩
  · rintro ⟨letters, digits, h, hrow, rfl⟩
    have hnormal := config.normalize_eq h
    refine NameRules.resolve_eq_some.mpr ⟨hnormal, ?_, (accepts_cellName h).mpr hrow⟩
    rw [← hnormal]
    exact (config.spelling.isVariable_apply _).trans
      (isVariable_trimmed_iff.mpr ⟨letters, digits, h⟩)

lemma name_eq_name_iff (h : config.spelling ≠ .asWritten) {text' name' : String}
    (hname : config.nameRules.resolve text = some name)
    (hname' : config.nameRules.resolve text' = some name') :
    name = name' ↔
      (Text.trimmed text).map Char.toLower = (Text.trimmed text').map Char.toLower := by
  obtain ⟨rfl, -⟩ := NameRules.resolve_eq_some.mp hname
  obtain ⟨rfl, -⟩ := NameRules.resolve_eq_some.mp hname'
  exact Spelling.apply_eq_apply_iff _ h

end Names

/-- A text names a cell if it is letters and then digits, with blanks around them, and its row is
not beyond the largest one; the cell has the name that is spelled as the settings say. A name names
itself, a row that does not fit sixty-four bits is beyond every largest one, and where the settings
spell the letters, texts name one cell if they are the same in lower case. -/
theorem resolve_iff_written (config : Config) :
    (config.Fits → ∀ text name, config.nameRules.resolve text = some name ↔
      ∃ letters digits, Written text letters digits ∧
        (∀ maxRow ∈ config.maxRow?, Nat.ofDigitChars 10 digits 0 ≤ maxRow) ∧
        name = config.cellName letters digits) ∧
    (∀ text name, config.nameRules.resolve text = some name →
      config.nameRules.resolve name = some name) ∧
    (∀ text letters digits, Written text letters digits →
      UInt64.size ≤ Nat.ofDigitChars 10 digits 0 →
      ∀ maxRow, { config with maxRow? := some maxRow }.nameRules.resolve text = none) ∧
    (config.spelling ≠ .asWritten → ∀ text text' name name',
      config.nameRules.resolve text = some name → config.nameRules.resolve text' = some name' →
      (name = name' ↔
        (Text.trimmed text).map Char.toLower = (Text.trimmed text').map Char.toLower)) := by
  refine ⟨fun hfits text name => ?_, config.idempotent_nameRules,
    fun text letters digits h hrow maxRow => ?_, fun h text text' name name' => name_eq_name_iff h⟩
  · rw [resolve_eq_some_iff]
    have hbound {row : Nat} : (∀ maxRow ∈ config.maxRow?, row < UInt64.size ∧ row ≤ maxRow) ↔
        ∀ maxRow ∈ config.maxRow?, row ≤ maxRow :=
      forall₂_congr fun maxRow hmax => and_iff_right_of_imp fun hle => hle.trans_lt (hfits _ hmax)
    simp only [hbound]
  · rw [Option.eq_none_iff_forall_ne_some]
    intro name hname
    obtain ⟨letters', digits', h', hrow', -⟩ := resolve_eq_some_iff.mp hname
    obtain ⟨-, rfl⟩ := h.unique h'
    exact hrow.not_gt (hrow' maxRow rfl).1

theorem resolve_iff_written_of_largest_row :
    ∃ config : Config, config = ⟨none, .lower, some 18446744073709551615⟩ ∧ config.Fits ∧
      config.nameRules.resolve " aB0018446744073709551615\t" = some "ab0018446744073709551615" ∧
      config.nameRules.resolve "ab0018446744073709551615" = some "ab0018446744073709551615" ∧
      config.nameRules.resolve "aB18446744073709551616" = none ∧
      ∀ name, config.nameRules.resolve "AB0018446744073709551615" = some name →
        name = "ab0018446744073709551615" := by
  obtain ⟨config, hconfig⟩ : ∃ config : Config,
    config = ⟨none, .lower, some 18446744073709551615⟩ := ⟨_, rfl⟩
  have hfits : config.Fits := by
    rw [hconfig]
    rintro maxRow ⟨⟩
    decide
  have hlargest : Written " aB0018446744073709551615\t" ['a', 'B']
      "0018446744073709551615".toList := by decide +kernel
  have hnext : Written "aB18446744073709551616" ['a', 'B'] "18446744073709551616".toList := by
    decide +kernel
  obtain ⟨hwritten, hself, hbeyond, hcase⟩ := config.resolve_iff_written
  have hname : config.nameRules.resolve " aB0018446744073709551615\t" =
      some "ab0018446744073709551615" := by
    refine (hwritten hfits _ _).mpr ⟨_, _, hlargest, ?_, ?_⟩
    · rw [hconfig]
      rintro maxRow ⟨⟩
      decide +kernel
    · rw [hconfig]
      decide +kernel
  have hnone := hbeyond _ _ _ hnext (by decide +kernel) 18446744073709551615
  have hspelling : config.spelling ≠ .asWritten := by
    rw [hconfig]
    decide
  refine ⟨config, hconfig, hfits, hname, hself _ _ hname, ?_, fun name hname' => ?_⟩
  · rw [hconfig] at hnone ⊢
    exact hnone
  · refine (hcase hspelling _ _ _ _ hname' hname).mpr ?_
    rw [← String.toList_inj, String.toList_map, String.toList_map]
    decide +kernel

end Config

end Spreadsheet
