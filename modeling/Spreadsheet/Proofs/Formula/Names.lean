import Mathlib
import Spreadsheet.Config.Basic
import Spreadsheet.Proofs.Formula.Canonical

namespace Spreadsheet

open Lexeme

lemma spelled_of_isVariable {name : String} (h : isVariable name = true) :
    Spelled .variable name.toList := by
  simp only [isVariable, isVariableText, Bool.and_eq_true] at h
  obtain ⟨⟨hl, hd⟩, hall⟩ := h
  rw [← List.takeWhile_append_dropWhile (p := Char.isAlpha) (l := name.toList)]
  refine .variable (fun c hc => List.mem_takeWhile_imp hc)
    (fun c hc => List.all_eq_true.mp hall c hc) ?_ ?_
  · cases hs : name.toList with
    | nil =>
      rw [hs] at hl
      cases hl
    | cons c cs =>
      rw [hs] at hl
      have hc : c.isAlpha = true := hl
      rw [List.takeWhile_cons_of_pos hc]
      exact List.cons_ne_nil _ _
  · intro hnil
    rw [hnil] at hd
    cases hd

lemma isVariable_of_spelled {name : String} (h : Spelled .variable name.toList) :
    isVariable name = true := by
  rw [isVariable]
  generalize name.toList = cs at h
  cases h with
  | «variable» hl hd hl' hd' =>
    obtain ⟨l, ls, rfl⟩ := List.exists_cons_of_ne_nil hl'
    obtain ⟨d, ds, rfl⟩ := List.exists_cons_of_ne_nil hd'
    have hstops : Text.Stops Char.isAlpha (d :: ds) :=
      Text.stops_cons.mpr (isAlpha_of_isDigit (hd d List.mem_cons_self))
    rw [isVariableText, Text.dropWhile_append hl hstops]
    simp [hl l List.mem_cons_self, hd d List.mem_cons_self, List.all_eq_true.mpr hd]

lemma isVariable_iff_spelled {name : String} :
    isVariable name = true ↔ Spelled .variable name.toList :=
  ⟨spelled_of_isVariable, isVariable_of_spelled⟩

namespace NameRules

def Idempotent (rules : NameRules) : Prop :=
  ∀ n m, rules.resolve n = some m → rules.resolve m = some m

variable {rules : NameRules}

lemma resolve_eq_some {n m : String} : rules.resolve n = some m ↔
    rules.normalize n = m ∧ isVariable m = true ∧ rules.accepts m = true := by
  simp only [resolve, Option.ite_none_right_eq_some, Option.some.injEq, Bool.and_eq_true]
  constructor
  · rintro ⟨h, rfl⟩
    exact ⟨rfl, h⟩
  · rintro ⟨rfl, h⟩
    exact ⟨h, rfl⟩

lemma settles (h : rules.Idempotent) : Token.Settles rules.resolve :=
  fun _ name _ hname =>
    ⟨spelled_of_isVariable (resolve_eq_some.mp hname).2.1, h _ name hname⟩

lemma idempotent_of_spell (h : ∀ s, rules.spell (rules.spell s) = rules.spell s) :
    rules.Idempotent := by
  intro n m hm
  obtain ⟨hnormal, hvariable, haccepts⟩ := resolve_eq_some.mp hm
  refine resolve_eq_some.mpr ⟨?_, hvariable, haccepts⟩
  rw [normalize, Text.trimmed_of_not_blank (spelled_of_isVariable hvariable).not_isBlank,
    ← hnormal, normalize, h]

end NameRules

theorem Config.idempotent_nameRules (config : Config) : config.nameRules.Idempotent := by
  apply NameRules.idempotent_of_spell
  intro s
  change config.spelling.apply (config.spelling.apply s) = config.spelling.apply s
  cases config.spelling with
  | upper => simp [Spelling.apply, ← String.toList_inj]
  | lower => simp [Spelling.apply, ← String.toList_inj]
  | asWritten => rfl

end Spreadsheet
