import Mathlib
import Spreadsheet.Proofs.Except
import Spreadsheet.Sheet.Storage

/-! The sheets that an empty one can become by edits, checks, loading and saving, any of which may
fail. What holds of an empty sheet and is kept by edits and checks holds of all of them. -/

namespace Spreadsheet

namespace Sheet

inductive Reachable (rules : NameRules) (version : String) : Sheet → Prop
  | empty : Reachable rules version (.empty rules version)
  | set {s : Sheet} (h : Reachable rules version s) (name input : String) :
    Reachable rules version (s.set name input).2
  | setFormula {s : Sheet} (h : Reachable rules version s) (name : String) (f : Formula) :
    Reachable rules version (s.setFormula name f).2
  | check {s : Sheet} (h : Reachable rules version s) (name input : String) :
    Reachable rules version (s.check name input).2
  | load {s : Sheet} (h : Reachable rules version s) (text : String) :
    Reachable rules version (s.load text).2
  | loadFile {s : Sheet} (h : Reachable rules version s) {σ : Type} [Files (StateM σ)]
    (path : String) (files : σ) :
    Reachable rules version ((s.loadFile path : StateM σ _).run files).1.2
  | save {s : Sheet} (h : Reachable rules version s) {σ : Type} [Files (StateM σ)]
    (path : String) (files : σ) :
    Reachable rules version ((s.save path : StateM σ _).run files).1.2

section Cases

variable (s : Sheet)

lemma set_cases (name input : String) : (∃ e, s.set name input = (.error e, s)) ∨
    ∃ n c, s.rules.resolve name = some n ∧ Contents.ofInput s.rules input = .ok c ∧
      s.set name input = s.replace n c := by
  unfold set interpret resolve
  cases s.rules.resolve name with
  | none => exact Or.inl ⟨_, rfl⟩
  | some n =>
    cases Contents.ofInput s.rules input with
    | error e => exact Or.inl ⟨_, rfl⟩
    | ok c => exact Or.inr ⟨n, c, rfl, rfl, rfl⟩

lemma setFormula_cases (name : String) (f : Formula) :
    (∃ e, s.setFormula name f = (.error e, s)) ∨ ∃ n f', s.rules.resolve name = some n ∧
      Formula.parseWithRules s.rules f.canonical = .ok f' ∧
      s.setFormula name f = s.replace n (.formula f') := by
  unfold setFormula resolve
  cases s.rules.resolve name with
  | none => exact Or.inl ⟨_, rfl⟩
  | some n =>
    cases Formula.parseWithRules s.rules f.canonical with
    | error e => exact Or.inl ⟨.invalidFormula e, by dsimp only⟩
    | ok f' => exact Or.inr ⟨n, f', rfl, rfl, by dsimp only⟩

lemma check_cases (name input : String) : (s.check name input).2 = s ∨
    ∃ n f, s.rules.resolve name = some n ∧ Contents.ofInput s.rules input = .ok (.formula f) ∧
      s.check name input = s.tryFormula n f := by
  unfold check interpret resolve
  cases s.rules.resolve name with
  | none => exact Or.inl rfl
  | some n =>
    cases Contents.ofInput s.rules input with
    | error e => exact Or.inl rfl
    | ok c =>
      cases c with
      | formula f => exact Or.inr ⟨n, f, rfl, rfl, rfl⟩
      | text _ => exact Or.inl rfl
      | number _ => exact Or.inl rfl

lemma keep_cases (r : Except StorageError Sheet) :
    (s.keep r).2 = s ∨ ∃ t, r = .ok t ∧ (s.keep r).2 = t := by
  cases r with
  | error e => exact Or.inl rfl
  | ok t => exact Or.inr ⟨t, rfl, rfl⟩

lemma reload_ok {text : String} {t : Sheet} (h : s.reload text = .ok t) :
    ∃ records, ofRecords s.rules s.version records = .ok t := by
  obtain ⟨document, -, h⟩ := Except.bind_eq_ok_iff.mp h
  exact ⟨document.records, h⟩

lemma ofRecords_ok {rules : NameRules} {version : String} {records : List Record} {t : Sheet}
    (h : ofRecords rules version records = .ok t) :
    ∃ u, records.foldlM enter (empty rules version) = .ok u ∧ t = { u with changed := false } := by
  obtain ⟨u, hu, rfl⟩ := Except.map_eq_ok_iff.mp h
  exact ⟨u, hu, rfl⟩

lemma enter_ok {record : Record} {t : Sheet} (h : s.enter record = .ok t) :
    (s.set record.name record.contents).2 = t := by
  unfold enter at h
  split at h
  · rename_i hs
    rw [hs]
    exact Except.ok.inj h
  · cases h

variable {σ : Type} [Files (StateM σ)] (path : String) (files : σ)

lemma loadFile_cases : ((s.loadFile path : StateM σ _).run files).1.2 = s ∨
    ∃ text t, s.reload text = .ok t ∧ ((s.loadFile path : StateM σ _).run files).1.2 = t := by
  have h : ((s.loadFile path : StateM σ _).run files).1 =
      s.keep (((readFile path : StateM σ _).run files).1.bind s.reload) := rfl
  rw [h]
  rcases s.keep_cases (((readFile path : StateM σ _).run files).1.bind s.reload) with
    hk | ⟨t, ht, hk⟩
  · exact Or.inl hk
  · obtain ⟨text, -, htext⟩ := Except.bind_eq_ok_iff.mp ht
    exact Or.inr ⟨text, t, htext, hk⟩

def afterWrite (path : String) : Except FileError Unit → Except StorageError String × Sheet
  | .ok () => (.ok path, { s with changed := false })
  | .error e => (.error (.file e), s)

lemma save_of_blank (h : Text.isBlankText s.version = true) :
    (s.save path : StateM σ _).run files = ((.error .emptyVersion, s), files) := by
  rw [save, if_pos h]
  rfl

lemma save_of_not_blank (h : Text.isBlankText s.version = false) :
    (s.save path : StateM σ _).run files =
      let written := (Files.writeText (Path.forSaving path) s.toMarkup : StateM σ _).run files
      (s.afterWrite (Path.forSaving path) written.1, written.2) := by
  rw [save, if_neg (by simp [h])]
  have hrun (written : StateM σ (Except FileError Unit)) : (do
      match ← written with
      | .ok () => return (.ok (Path.forSaving path), { s with changed := false })
      | .error e => return (.error (.file e), s) :
        StateM σ (Except StorageError String × Sheet)).run files =
      (s.afterWrite (Path.forSaving path) (written.run files).1, (written.run files).2) := by
    rw [StateT.run_bind]
    obtain ⟨r, files'⟩ := written.run files
    cases r <;> rfl
  exact hrun _

lemma save_cases : ((s.save path : StateM σ _).run files).1.2 = s ∨
    ((s.save path : StateM σ _).run files).1.2 = { s with changed := false } := by
  cases hv : Text.isBlankText s.version with
  | true =>
    rw [save_of_blank s path files hv]
    exact Or.inl rfl
  | false =>
    rw [save_of_not_blank s path files hv]
    dsimp only
    cases ((Files.writeText (Path.forSaving path) s.toMarkup : StateM σ _).run files).1 with
    | error e => exact Or.inl rfl
    | ok => exact Or.inr rfl

end Cases

section Invariant

lemma rules_replace (s : Sheet) (n : String) (c : Contents) :
    (s.replace n c).2.rules = s.rules ∧ (s.replace n c).2.version = s.version := by
  rw [replace]
  split <;> exact ⟨rfl, rfl⟩

lemma tryFormula_snd (s : Sheet) (n : String) (f : Formula) : (s.tryFormula n f).2 =
    let former := s.graph.dependees n
    { s with graph := (rewire s.graph n f.variableNames).1.replaceDependees n former } := by
  simp only [tryFormula]
  cases (rewire s.graph n f.variableNames).2 <;> rfl

def Entered (rules : NameRules) (c : Contents) : Prop :=
  (∃ input, Contents.ofInput rules input = .ok c) ∨
    ∃ text f, Formula.parseWithRules rules text = .ok f ∧ c = .formula f

structure Invariant (rules : NameRules) (version : String) (P : Sheet → Prop) : Prop where
  empty : P (.empty rules version)
  replace {s : Sheet} (h : P s) {n : String} {c : Contents}
    (hn : ∃ name, rules.resolve name = some n) (hc : Entered rules c) : P (s.replace n c).2
  tryFormula {s : Sheet} (h : P s) (n : String) (f : Formula) : P (s.tryFormula n f).2
  saved {s : Sheet} (h : P s) : P { s with changed := false }

def With (rules : NameRules) (version : String) (P : Sheet → Prop) (s : Sheet) : Prop :=
  s.rules = rules ∧ s.version = version ∧ P s

variable {rules : NameRules} {version : String} {P : Sheet → Prop} {s : Sheet}

lemma Invariant.set_with (hP : Invariant rules version P) (h : With rules version P s)
    (name input : String) : With rules version P (s.set name input).2 := by
  obtain ⟨rfl, rfl, h⟩ := h
  rcases s.set_cases name input with ⟨e, hs⟩ | ⟨n, c, hn, hc, hs⟩
  · rw [hs]
    exact ⟨rfl, rfl, h⟩
  · rw [hs]
    have hr := s.rules_replace n c
    exact ⟨hr.1, hr.2, hP.replace h ⟨name, hn⟩ (Or.inl ⟨input, hc⟩)⟩

lemma Invariant.setFormula_with (hP : Invariant rules version P) (h : With rules version P s)
    (name : String) (f : Formula) : With rules version P (s.setFormula name f).2 := by
  obtain ⟨rfl, rfl, h⟩ := h
  rcases s.setFormula_cases name f with ⟨e, hs⟩ | ⟨n, f', hn, hf, hs⟩
  · rw [hs]
    exact ⟨rfl, rfl, h⟩
  · rw [hs]
    have hr := s.rules_replace n (.formula f')
    exact ⟨hr.1, hr.2, hP.replace h ⟨name, hn⟩ (Or.inr ⟨_, f', hf, rfl⟩)⟩

lemma Invariant.check_with (hP : Invariant rules version P) (h : With rules version P s)
    (name input : String) : With rules version P (s.check name input).2 := by
  obtain ⟨hr, hv, h⟩ := h
  rcases s.check_cases name input with hs | ⟨n, f, -, -, hs⟩
  · rw [hs]
    exact ⟨hr, hv, h⟩
  · rw [hs]
    have ht := s.tryFormula_snd n f
    exact ⟨by rw [ht, hr], by rw [ht, hv], hP.tryFormula h n f⟩

lemma Invariant.enter_all (hP : Invariant rules version P) {records : List Record} {t : Sheet}
    (h : With rules version P s) (ht : records.foldlM enter s = .ok t) :
    With rules version P t := by
  induction records generalizing s with
  | nil => exact Except.ok.inj ht ▸ h
  | cons record records ih =>
    obtain ⟨u, hu, ht⟩ := List.foldlM_cons_eq_ok_iff.mp ht
    exact ih (s.enter_ok hu ▸ hP.set_with h record.name record.contents) ht

lemma Invariant.reload_with (hP : Invariant rules version P) (h : With rules version P s)
    {text : String} {t : Sheet} (ht : s.reload text = .ok t) : With rules version P t := by
  obtain ⟨rfl, rfl, -⟩ := h
  obtain ⟨records, hr⟩ := s.reload_ok ht
  obtain ⟨u, hu, rfl⟩ := ofRecords_ok hr
  obtain ⟨hrules, hversion, hu⟩ :=
    hP.enter_all (s := .empty s.rules s.version) ⟨rfl, rfl, hP.empty⟩ hu
  exact ⟨hrules, hversion, hP.saved hu⟩

theorem Reachable.with_invariant (hP : Invariant rules version P)
    (h : Reachable rules version s) : With rules version P s := by
  induction h with
  | empty => exact ⟨rfl, rfl, hP.empty⟩
  | set _ name input ih => exact hP.set_with ih name input
  | setFormula _ name f ih => exact hP.setFormula_with ih name f
  | check _ name input ih => exact hP.check_with ih name input
  | @load s _ text ih =>
    rcases s.keep_cases (s.reload text) with hs | ⟨t, ht, hs⟩
    · rw [Sheet.load, hs]
      exact ih
    · rw [Sheet.load, hs]
      exact hP.reload_with ih ht
  | @loadFile s _ σ _ path files ih =>
    rcases s.loadFile_cases path files with hs | ⟨text, t, ht, hs⟩
    · rw [hs]
      exact ih
    · rw [hs]
      exact hP.reload_with ih ht
  | @save s _ σ _ path files ih =>
    rcases s.save_cases path files with hs | hs
    · rw [hs]
      exact ih
    · rw [hs]
      exact ⟨ih.1, ih.2.1, hP.saved ih.2.2⟩

end Invariant

end Sheet

end Spreadsheet
