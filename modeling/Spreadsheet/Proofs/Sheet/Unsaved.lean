import Spreadsheet.Proofs.Sheet.Unobserved
import Spreadsheet.Proofs.Sheet.Version

/-! What the flag of a sheet tells. An accepted edit raises it, loading and saving take it down, and
no other call touches it or the document, so that while it is down the sheet is what it was when it
was created, loaded or saved for the last time. -/

namespace Spreadsheet.Sheet

inductive Effect where
  | edited
  | settled
  | nothing
  deriving DecidableEq, Repr

namespace Effect

def unlessFailed {ε α : Type} (effect : Effect) : Except ε α → Effect
  | .ok _ => effect
  | .error _ => nothing

def changed : Effect → Bool → Bool
  | edited, _ => true
  | settled, _ => false
  | nothing, before => before

end Effect

inductive Call (s : Sheet) : Effect → Sheet → Prop
  | set (name input : String) :
    Call s (Effect.edited.unlessFailed (s.set name input).1) (s.set name input).2
  | setFormula (name : String) (f : Formula) :
    Call s (Effect.edited.unlessFailed (s.setFormula name f).1) (s.setFormula name f).2
  | check (name input : String) : Call s .nothing (s.check name input).2
  | load (text : String) : Call s (Effect.settled.unlessFailed (s.load text).1) (s.load text).2
  | loadFile {σ : Type} [Files (StateM σ)] (path : String) (files : σ) :
    Call s (Effect.settled.unlessFailed ((s.loadFile path : StateM σ _).run files).1.1)
      ((s.loadFile path : StateM σ _).run files).1.2
  | save {σ : Type} [Files (StateM σ)] (path : String) (files : σ) :
    Call s (Effect.settled.unlessFailed ((s.save path : StateM σ _).run files).1.1)
      ((s.save path : StateM σ _).run files).1.2

/-- The second sheet has become what it is by calls on the first one, which is what it was when it
was created, loaded or saved for the last time. -/
inductive Since (rules : NameRules) (version : String) : Sheet → Sheet → Prop
  | created : Since rules version (.empty rules version) (.empty rules version)
  | opened {σ : Type} [Files (StateM σ)] {path : String} {files files' : σ} {s : Sheet}
    (h : (openFile path rules version : StateM σ _).run files = (.ok s, files')) :
    Since rules version s s
  | settled {base s s' : Sheet} (h : Since rules version base s) (hc : s.Call .settled s') :
    Since rules version s' s'
  | call {base s s' : Sheet} {effect : Effect} (h : Since rules version base s)
    (hc : s.Call effect s') (he : effect ≠ .settled) : Since rules version base s'

section Call

variable {s s' : Sheet} {effect : Effect}

structure Effect.Holds (effect : Effect) (s s' : Sheet) : Prop where
  changed : s'.changed = effect.changed s.changed
  same : effect = .nothing → SameState s s'

lemma Effect.holds_nothing (h : SameState s s') : Effect.nothing.Holds s s' :=
  ⟨h.changed, fun _ => h⟩

lemma Consistent.holds_replace (hs : s.Consistent) (n : String) (c : Contents) :
    (Effect.edited.unlessFailed (s.replace n c).1).Holds s (s.replace n c).2 := by
  rcases replace_cases hs.graph n c with ⟨cycle, ho⟩ | ⟨order, ho⟩
  · have hsame := hs.sameState_of_error n c ho
    rw [replace_of_error ho] at hsame ⊢
    exact Effect.holds_nothing hsame
  · rw [replace_of_ok ho]
    exact ⟨rfl, fun h => by cases h⟩

lemma holds_keep {r : Except StorageError Sheet} (h : ∀ t, r = .ok t → t.changed = false) :
    (Effect.settled.unlessFailed (s.keep r).1).Holds s (s.keep r).2 := by
  cases r with
  | error e => exact Effect.holds_nothing (.refl s)
  | ok t => exact ⟨h t rfl, fun h => by cases h⟩

lemma changed_of_reload {text : String} {t : Sheet} (h : s.reload text = .ok t) :
    t.changed = false := by
  obtain ⟨records, hr⟩ := s.reload_ok h
  obtain ⟨u, -, rfl⟩ := ofRecords_ok hr
  rfl

lemma Call.holds (hs : s.Consistent) (h : s.Call effect s') : effect.Holds s s' := by
  cases h with
  | set name input =>
    rcases s.set_cases name input with ⟨e, hset⟩ | ⟨n, c, -, -, hset⟩
    · rw [hset]
      exact Effect.holds_nothing (.refl s)
    · rw [hset]
      exact hs.holds_replace n c
  | setFormula name f =>
    rcases s.setFormula_cases name f with ⟨e, hset⟩ | ⟨n, f', -, -, hset⟩
    · rw [hset]
      exact Effect.holds_nothing (.refl s)
    · rw [hset]
      exact hs.holds_replace n (.formula f')
  | check name input =>
    exact Effect.holds_nothing (hs.sameState_silent (r := .check name input) trivial)
  | load text => exact holds_keep fun t => changed_of_reload
  | @loadFile σ _ path files =>
    apply holds_keep
    intro t ht
    obtain ⟨text, -, ht⟩ := Except.bind_eq_ok_iff.mp ht
    exact changed_of_reload ht
  | @save σ _ path files =>
    cases hv : Text.isBlankText s.version with
    | true =>
      rw [save_of_blank s path files hv]
      exact Effect.holds_nothing (.refl s)
    | false =>
      rw [save_of_not_blank s path files hv]
      dsimp only
      cases ((Files.writeText (Path.forSaving path) s.toMarkup : StateM σ _).run files).1 with
      | error e => exact Effect.holds_nothing (.refl s)
      | ok => exact ⟨rfl, fun h => by cases h⟩

end Call

section Since

variable {rules : NameRules} {version : String} {base s s' : Sheet} {effect : Effect}

lemma Reachable.call (h : Reachable rules version s) (hc : s.Call effect s') :
    Reachable rules version s' := by
  cases hc with
  | set name input => exact h.set name input
  | setFormula name f => exact h.setFormula name f
  | check name input => exact h.check name input
  | load text => exact h.load text
  | loadFile path files => exact h.loadFile path files
  | save path files => exact h.save path files

lemma Since.reachable (h : Since rules version base s) : Reachable rules version s := by
  induction h with
  | created => exact .empty
  | opened h =>
    obtain ⟨text, -, hs⟩ := openFile_eq_ok_iff.mp h
    exact reachable_of_ofText hs
  | settled _ hc ih => exact ih.call hc
  | call _ hc _ ih => exact ih.call hc

lemma exists_since_of_call (h : ∃ base, Since rules version base s) (hc : s.Call effect s') :
    ∃ base, Since rules version base s' := by
  obtain ⟨base, h⟩ := h
  by_cases he : effect = .settled
  · subst he
    exact ⟨s', h.settled hc⟩
  · exact ⟨base, h.call hc he⟩

theorem Reachable.exists_since (h : Reachable rules version s) :
    ∃ base, Since rules version base s := by
  induction h with
  | empty => exact ⟨_, .created⟩
  | set _ name input ih => exact exists_since_of_call ih (.set name input)
  | setFormula _ name f ih => exact exists_since_of_call ih (.setFormula name f)
  | check _ name input ih => exact exists_since_of_call ih (.check name input)
  | load _ text ih => exact exists_since_of_call ih (.load text)
  | loadFile _ path files ih => exact exists_since_of_call ih (.loadFile path files)
  | save _ path files ih => exact exists_since_of_call ih (.save path files)

lemma Since.sameState (h : Since rules version base s) (hchanged : s.changed = false) :
    SameState base s := by
  induction h with
  | created => exact .refl _
  | opened => exact .refl _
  | settled => exact .refl _
  | @call base s s' effect h hc he ih =>
    have hholds := hc.holds h.reachable.consistent
    cases effect with
    | edited => cases hholds.changed.symm.trans hchanged
    | settled => exact (he rfl).elim
    | nothing => exact (ih (hholds.changed.symm.trans hchanged)).trans (hholds.same rfl)

lemma toMarkup_of_save {σ : Type} [Files (StateM σ)] {t : Sheet} {path q : String}
    {files files' : σ} (h : (t.save path : StateM σ _).run files = ((.ok q, base), files')) :
    base.toMarkup = t.toMarkup := by
  rcases t.save_cases path files with hbase | hbase
  · rw [← hbase, h]
  · rw [h] at hbase
    change base = _ at hbase
    rw [hbase]
    rfl

/-- While the flag is down, the sheet is what it was when it was created, loaded or saved for the
last time, and what was written then is its markup. An accepted edit raises the flag, loading and
saving take it down, and any other call leaves it, with the sheet, as it was. -/
theorem Since.nothing_unsaved (h : Since rules version base s) :
    (s.changed = false → SameState base s ∧ s.toMarkup = base.toMarkup ∧
      ∀ (σ : Type) [Files (StateM σ)] (t : Sheet) (path q : String) (files files' : σ),
        (t.save path : StateM σ _).run files = ((.ok q, base), files') →
        (Files.writeText q s.toMarkup : StateM σ _).run files = (.ok (), files') ∧
        (Files.Lawful σ →
          (Files.readText q : StateM σ _).run files' = (.ok s.toMarkup, files'))) ∧
    ∀ effect s', s.Call effect s' →
      s'.changed = effect.changed s.changed ∧ (effect = .nothing → SameState s s') := by
  refine ⟨fun hchanged => ?_, fun effect s' hc => ?_⟩
  · have hsame := h.sameState hchanged
    have hmarkup := hsame.toMarkup_eq hsame.version
    refine ⟨hsame, hmarkup, fun σ _ t path q files files' hsave => ?_⟩
    obtain ⟨-, -, hwrite⟩ := save_ok hsave
    rw [← toMarkup_of_save hsave, ← hmarkup] at hwrite
    exact ⟨hwrite, fun hσ => hσ.readText_written hwrite⟩
  · have hholds := hc.holds h.reachable.consistent
    exact ⟨hholds.changed, hholds.same⟩

theorem nothing_unsaved_after_rejection :
    ∃ edited base s files, edited = ((empty .standard "1.0").set "b1" "=a1").2 ∧
      (edited.save "doc" : StateM FileTree _).run .fresh = ((.ok "doc.ss", base), files) ∧
      s = ((base.set "a1" "=b1").2.check "c1" "=a1+").2 ∧ Since .standard "1.0" base s ∧
      s.changed = false ∧ SameState base s ∧
      (Files.readText "doc.ss" : StateM FileTree _).run files = (.ok s.toMarkup, files) ∧
      (s.set "a1" "x").2.changed = true := by
  have hne {ε α : Type} (r : Except ε α) : Effect.edited.unlessFailed r ≠ .settled := by
    cases r <;> exact fun h => by cases h
  have hedited := (@Since.created .standard "1.0").call (.set "b1" "=a1") (hne _)
  have hblank : Text.isBlankText ((empty .standard "1.0").set "b1" "=a1").2.version = false := by
    rw [hedited.reachable.version_eq]
    decide +kernel
  have hsaved := Call.save (s := ((empty .standard "1.0").set "b1" "=a1").2) "doc" FileTree.fresh
  rw [save_fresh hblank] at hsaved
  have hbase := hedited.settled hsaved
  have hcircular : (Sheet.set { ((empty .standard "1.0").set "b1" "=a1").2 with changed := false }
      "a1" "=b1").1 = .error (.circular "A1" ⟨["A1", "B1", "A1"]⟩) := by cbv
  have hrejected := hbase.call (.set "a1" "=b1") (hne _)
  have hs := hrejected.call (.check "c1" "=a1+") (by decide)
  have hflag := (hbase.nothing_unsaved.2 _ _ (.set "a1" "=b1")).1
  rw [hcircular] at hflag
  have hchanged := (hrejected.nothing_unsaved.2 _ _ (.check "c1" "=a1+")).1.trans hflag
  obtain ⟨hunsaved, hcalls⟩ := hs.nothing_unsaved
  obtain ⟨hsame, -, hfile⟩ := hunsaved hchanged
  have hread := (hfile FileTree _ _ _ _ _ (save_fresh hblank)).2 FileTree.lawful
  have hrules := hs.reachable.rules_eq
  have hn : NameRules.standard.resolve "a1" = some "A1" := by decide +kernel
  have hx : Contents.ofInput .standard "x" = .ok (.text "x") := by cbv
  obtain ⟨order, horder⟩ := hs.reachable.consistent.replace_ok_of_not_formula "A1" (.text "x") rfl
  have hset := (hcalls _ _ (.set "a1" "x")).1
  rw [← hrules] at hn hx
  rw [set_of_ok hn hx, horder] at hset
  refine ⟨_, _, _, _, rfl, save_fresh hblank, rfl, hs, hchanged, hsame, hread, ?_⟩
  rw [set_of_ok hn hx]
  exact hset

end Since

end Spreadsheet.Sheet
