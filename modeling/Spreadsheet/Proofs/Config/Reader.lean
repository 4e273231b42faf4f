import Mathlib
import Spreadsheet.Config.Load

namespace Spreadsheet.Config

def Fits (config : Config) : Prop := ∀ maxRow ∈ config.maxRow?, maxRow < UInt64.size

def Setting.InRange : Setting → Prop
  | .integer n => Statement.inRange n = true
  | .text _ | .empty => True

namespace Statement

def InRange : Statement → Prop
  | table _ => True
  | assign _ setting => setting.InRange

section Read

variable {cs rest : List Char} {path : List String} {setting : Setting} {statement : Statement}

lemma inRange_of_readText {mark : Char} (h : readText mark cs = some (setting, rest)) :
    setting.InRange := by
  obtain ⟨⟨text, rest⟩, -, h⟩ := Option.map_eq_some_iff.mp h
  rw [← (Prod.mk.inj h).1]
  trivial

lemma inRange_of_readSetting (h : readSetting cs = some (setting, rest)) : setting.InRange := by
  rw [readSetting.eq_def] at h
  split at h
  · split at h
    · rw [← (Prod.mk.inj (Option.some.inj h)).1]
      trivial
    · cases h
  · split at h
    · rw [← (Prod.mk.inj (Option.some.inj h)).1]
      trivial
    · cases h
  · exact inRange_of_readText h
  · exact inRange_of_readText h
  · obtain ⟨n, hn, h⟩ := Option.map_eq_some_iff.mp h
    rw [← (Prod.mk.inj h).1]
    exact (Option.filter_eq_some_iff.mp hn).2

lemma inRange_of_readPair (h : readPair cs = some (path, setting, rest)) : setting.InRange := by
  obtain ⟨⟨path', rest'⟩, -, h⟩ := Option.bind_eq_some_iff.mp h
  dsimp only at h
  split at h
  · obtain ⟨⟨setting', rest''⟩, hsetting, h⟩ := Option.bind_eq_some_iff.mp h
    obtain ⟨-, h⟩ := Prod.mk.inj (Option.some.inj h)
    rw [← (Prod.mk.inj h).1]
    exact inRange_of_readSetting hsetting
  · cases h

lemma inRange_of_readBraced (h : readBraced cs = some (path, setting, rest)) :
    setting.InRange := by
  rw [readBraced.eq_def] at h
  split at h
  · obtain ⟨⟨path', setting', rest'⟩, hpair, h⟩ := Option.bind_eq_some_iff.mp h
    dsimp only at h
    split at h
    · obtain ⟨-, h⟩ := Prod.mk.inj (Option.some.inj h)
      rw [← (Prod.mk.inj h).1]
      exact inRange_of_readPair hpair
    · cases h
  · cases h

lemma inRange_of_readAssign (h : readAssign cs = some (statement, rest)) : statement.InRange := by
  obtain ⟨⟨path, rest'⟩, -, h⟩ := Option.bind_eq_some_iff.mp h
  dsimp only at h
  split at h
  · split at h
    · rename_i hbraced
      rw [← (Prod.mk.inj (Option.some.inj h)).1]
      exact inRange_of_readBraced hbraced
    · obtain ⟨⟨setting, rest''⟩, hsetting, h⟩ := Option.map_eq_some_iff.mp h
      rw [← (Prod.mk.inj h).1]
      exact inRange_of_readSetting hsetting
  · cases h

lemma inRange_of_readTable (h : readTable cs = some (statement, rest)) : statement.InRange := by
  obtain ⟨⟨path, rest'⟩, -, h⟩ := Option.bind_eq_some_iff.mp h
  dsimp only at h
  split at h
  · rw [← (Prod.mk.inj (Option.some.inj h)).1]
    trivial
  · cases h

lemma inRange_of_readOne (h : readOne cs = some (statement, rest)) : statement.InRange := by
  rw [readOne] at h
  split at h
  · exact inRange_of_readTable h
  · exact inRange_of_readAssign h

lemma inRange_of_readLines {fuel : Nat} {statements : List Statement}
    (h : readLines fuel cs = some statements) : ∀ statement ∈ statements, statement.InRange := by
  induction fuel, cs using readLines.induct generalizing statements with
  | case1 fuel =>
    rw [readLines] at h
    obtain rfl := Option.some.inj h
    exact fun statement hs => (List.not_mem_nil hs).elim
  | case2 cs hcs =>
    rw [readLines] at h
    · cases h
    · exact hcs
  | case3 fuel cs hcs rest hend ih =>
    rw [readLines, hend] at h
    · exact ih h
    · exact hcs
  | case4 fuel cs hcs hend ih =>
    rw [readLines, hend] at h
    · obtain ⟨⟨statement, rest⟩, hone, h⟩ := Option.bind_eq_some_iff.mp h
      obtain ⟨rest', -, h⟩ := Option.bind_eq_some_iff.mp h
      obtain ⟨statements', hlines, rfl⟩ := Option.map_eq_some_iff.mp h
      exact List.forall_mem_cons.mpr ⟨inRange_of_readOne hone, ih _ hlines⟩
    · exact hcs

end Read

end Statement

namespace Draft

def Fits (draft : Draft) : Prop := ∀ maxRow ∈ draft.maxRow?, maxRow < UInt64.size

variable {draft draft' : Draft} {statement : Statement}

lemma maxRow?_enter {path : List String} (h : draft.enter path = some draft') :
    draft'.maxRow? = draft.maxRow? := by
  rw [enter.eq_def] at h
  dsimp only at h
  split at h
  · obtain ⟨choice, -, rfl⟩ := Option.map_eq_some_iff.mp h
    rfl
  · obtain ⟨choice, -, rfl⟩ := Option.map_eq_some_iff.mp h
    rfl
  · cases h

lemma Fits.assign {path : List String} {setting : Setting} (hfits : draft.Fits)
    (hsetting : setting.InRange) (h : draft.assign path setting = some draft') :
    draft'.Fits := by
  rw [Draft.assign.eq_def] at h
  split at h
  · split at h
    · cases h
    · obtain rfl := Option.some.inj h
      exact hfits
  · rename_i n
    split at h
    · cases h
    · obtain rfl := Option.some.inj h
      rintro maxRow ⟨⟩
      have hrange : (-9223372036854775808 ≤ n && n ≤ 9223372036854775807) = true := hsetting
      have hsize : UInt64.size = 18446744073709551616 := rfl
      simp only [Bool.and_eq_true, decide_eq_true_eq] at hrange
      omega
  · obtain ⟨choice, -, rfl⟩ := Option.map_eq_some_iff.mp h
    exact hfits
  · obtain ⟨choice, -, rfl⟩ := Option.map_eq_some_iff.mp h
    exact hfits
  · cases h

lemma Fits.step (hfits : draft.Fits) (hstatement : statement.InRange)
    (h : draft.step statement = some draft') : draft'.Fits := by
  cases statement with
  | table path =>
    rw [Fits, maxRow?_enter h]
    exact hfits
  | assign path setting => exact hfits.assign hstatement h

lemma Fits.steps {statements : List Statement} (hfits : draft.Fits)
    (hstatements : ∀ statement ∈ statements, statement.InRange)
    (h : statements.foldlM Draft.step draft = some draft') : draft'.Fits := by
  induction statements generalizing draft with
  | nil =>
    obtain rfl := Option.some.inj h
    exact hfits
  | cons statement statements ih =>
    obtain ⟨hstatement, hstatements⟩ := List.forall_mem_cons.mp hstatements
    rw [List.foldlM_cons] at h
    obtain ⟨next, hnext, h⟩ := Option.bind_eq_some_iff.mp h
    exact ih (hfits.step hstatement hnext) hstatements h

end Draft

lemma fits_of_parse {text : String} {config : Config} (h : parse text = some config) :
    config.Fits := by
  obtain ⟨statements, hread, h⟩ := Option.bind_eq_some_iff.mp h
  obtain ⟨draft, hsteps, h⟩ := Option.bind_eq_some_iff.mp h
  obtain ⟨spelling, -, rfl⟩ := Option.map_eq_some_iff.mp h
  have hblank : Draft.blank.Fits := fun maxRow h => by cases h
  exact hblank.steps (Statement.inRange_of_readLines hread) hsteps

lemma fits_standard : standard.Fits := fun maxRow h => by cases h

section Load

variable {σ : Type} [Files (StateM σ)] (files : σ)

lemma fits_of_loadFile (path : String) (size : Nat) :
    ((loadFile path size : StateM σ _).run files).1.1.Fits := by
  rw [loadFile]
  split
  · exact fits_standard
  · rw [StateT.run_bind]
    obtain ⟨text, files'⟩ := (Files.readText path : StateM σ _).run files
    cases text with
    | error e => exact fits_standard
    | ok text =>
      change (StateT.run (_ : StateM σ (Config × List Warning)) files').1.1.Fits
      dsimp only
      cases hparse : parse text with
      | none => exact fits_standard
      | some config => exact fits_of_parse hparse

theorem fits_of_load (given : Option String) (own : String) :
    ((load given own : StateM σ _).run files).1.1.Fits := by
  rw [load, StateT.run_bind]
  obtain ⟨size, files'⟩ := (Files.size? (given.getD own) : StateM σ _).run files
  cases size with
  | none => exact fits_standard
  | some size => exact fits_of_loadFile files' _ size

end Load

end Spreadsheet.Config
