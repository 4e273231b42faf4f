import Mathlib
import Spreadsheet.Files.Tree
import Spreadsheet.Proofs.Except

/-! Files that keep what is written to them. The tree of files does, as a file that is written is no
directory on the way to another. -/

namespace Spreadsheet

namespace Files

structure Lawful (σ : Type) [Files (StateM σ)] : Prop where
  read_written {path text : String} {files files' : σ}
    (h : (writeText path text : StateM σ _).run files = (.ok (), files')) :
    (readBytes path : StateM σ _).run files' = (.ok text.toUTF8, files')
  write_again {path text : String} {files files' : σ}
    (h : (writeText path text : StateM σ _).run files = (.ok (), files')) (text' : String) :
    ((writeText path text' : StateM σ _).run files').1 = .ok ()

structure Steady (σ : Type) [Files (StateM σ)] : Prop extends Lawful σ where
  readBytes_state (path : String) (files : σ) :
    ((readBytes path : StateM σ _).run files).2 = files
  size?_state (path : String) (files : σ) : ((size? path : StateM σ _).run files).2 = files
  size?_written {path text : String} {files files' : σ}
    (h : (writeText path text : StateM σ _).run files = (.ok (), files')) :
    ∃ size, ((size? path : StateM σ _).run files').1 = some size

lemma decode_toUTF8 (text : String) : decode text.toUTF8 = .ok text := by
  have hbytes : String.fromUTF8? text.toUTF8 = some text := dif_pos text.isValidUTF8
  rw [decode, hbytes]

lemma Lawful.readText_written {σ : Type} [Files (StateM σ)] (hσ : Lawful σ) {path text : String}
    {files files' : σ} (h : (writeText path text : StateM σ _).run files = (.ok (), files')) :
    (readText path : StateM σ _).run files' = (.ok text, files') := by
  have hrun : (readText path : StateM σ _).run files' =
      (((readBytes path : StateM σ _).run files').1.bind decode,
        ((readBytes path : StateM σ _).run files').2) := rfl
  rw [hrun, hσ.read_written h]
  exact congrArg (·, files') (decode_toUTF8 text)

end Files

namespace FileTree

variable {tree : FileTree} {place : Place}

lemma lookup_filter_ne (entries : List (Place × Entry)) {other : Place} (h : other ≠ place) :
    (entries.filter fun e => e.1 ≠ place).lookup other = entries.lookup other := by
  induction entries with
  | nil => rfl
  | cons e entries ih =>
    obtain ⟨p, entry⟩ := e
    by_cases hp : p = place
    · subst hp
      rw [List.filter_cons_of_neg (by simp), ih, List.lookup_cons, beq_false_of_ne h]
    · rw [List.filter_cons_of_pos (by simpa using hp), List.lookup_cons, List.lookup_cons, ih]

lemma entry?_put (h : place ≠ []) (entry : Entry) (other : Place) :
    FileTree.entry? (tree.put place entry) other =
      if other = place then some entry else tree.entry? other := by
  rw [FileTree.entry?, FileTree.entry?, put]
  dsimp only
  by_cases ho : other = place
  · subst ho
    rw [if_pos rfl, if_neg (by simpa using h), List.lookup_cons_self]
  · rw [if_neg ho, List.lookup_cons, beq_false_of_ne ho]
    dsimp only
    rw [lookup_filter_ne _ ho]

section Put

variable (hplace : tree.entry? place ≠ some .directory) (bytes : ByteArray)
include hplace

lemma ne_nil_of_not_directory : place ≠ [] := by
  rintro rfl
  exact hplace rfl

lemma entry?_put_of_directory {other : Place} (h : tree.entry? other = some .directory) :
    FileTree.entry? (tree.put place (.file bytes)) other = some .directory := by
  have hne : other ≠ place := by
    rintro rfl
    exact hplace h
  rw [entry?_put (ne_nil_of_not_directory hplace), if_neg hne, h]

lemma enter_put {here there : Place} {segment : List Char}
    (h : tree.enter here segment = .ok there) :
    (tree.put place (.file bytes)).enter here segment = .ok there := by
  rw [enter] at h ⊢
  split_ifs at h ⊢
  · exact h
  · exact h
  · dsimp only at h ⊢
    split_ifs at h ⊢
    split at h
    · rename_i hdirectory
      rw [entry?_put_of_directory hplace bytes hdirectory]
      exact h
    · cases h
    · cases h

lemma foldlM_enter_put {steps : List (List Char)} {here there : Place}
    (h : steps.foldlM tree.enter here = .ok there) :
    steps.foldlM (tree.put place (.file bytes)).enter here = .ok there := by
  induction steps generalizing here with
  | nil => exact h
  | cons segment steps ih =>
    obtain ⟨next, hnext, h⟩ := List.foldlM_cons_eq_ok_iff.mp h
    exact List.foldlM_cons_eq_ok_iff.mpr ⟨next, enter_put hplace bytes hnext, ih h⟩

lemma target_put {path : String} {target : Target} (h : tree.target path = .ok target) :
    (tree.put place (.file bytes)).target path = .ok target := by
  have hworking : (tree.put place (.file bytes)).working = tree.working := rfl
  rw [FileTree.target] at h ⊢
  dsimp only at h ⊢
  rw [hworking]
  split_ifs at h ⊢
  all_goals
    split at h
    · exact h
    · split at h
      · rename_i hsteps
        rw [foldlM_enter_put hplace bytes hsteps]
        exact h
      · cases h

end Put

lemma write_cases {path : String} {bytes : ByteArray} {tree' : FileTree}
    (h : tree.write path bytes = .ok tree') : ∃ place, tree.target path = .ok ⟨place, false⟩ ∧
      tree.entry? place ≠ some .directory ∧ tree' = tree.put place (.file bytes) := by
  rw [write] at h
  split at h
  · cases h
  · rename_i place slash htarget
    split at h
    · cases h
    · rename_i hplace
      cases slash with
      | true => cases h
      | false => exact ⟨place, htarget, hplace, (Except.ok.inj h).symm⟩

lemma write_run (path text : String) : (Files.writeText path text : StateM FileTree _).run tree =
    match tree.write path text.toUTF8 with
    | .ok tree' => (.ok (), tree')
    | .error e => (.error e, tree) := by
  have hrun : (Files.writeText path text : StateM FileTree _).run tree =
      (match tree.write path text.toUTF8 with
      | .ok tree' => (do set tree'; return .ok () : StateM FileTree (Except FileError Unit))
      | .error e => return .error e).run tree := rfl
  rw [hrun]
  cases tree.write path text.toUTF8 <;> rfl

lemma write_run_ok {path text : String} {tree' : FileTree}
    (h : (Files.writeText path text : StateM FileTree _).run tree = (.ok (), tree')) :
    tree.write path text.toUTF8 = .ok tree' := by
  rw [write_run] at h
  split at h
  · rename_i hwrite
    rw [hwrite, (Prod.mk.inj h).2]
  · cases (Prod.mk.inj h).1

lemma target_of_write {path : String} {bytes : ByteArray} {tree' : FileTree}
    (h : tree.write path bytes = .ok tree') : ∃ place, tree'.target path = .ok ⟨place, false⟩ ∧
      tree'.entry? place = some (.file bytes) := by
  obtain ⟨place, htarget, hplace, rfl⟩ := write_cases h
  refine ⟨place, target_put hplace bytes htarget, ?_⟩
  rw [entry?_put (ne_nil_of_not_directory hplace), if_pos rfl]

theorem lawful : Files.Lawful FileTree where
  read_written h := by
    obtain ⟨place, htarget, hentry⟩ := target_of_write (write_run_ok h)
    apply Prod.ext
    · change FileTree.read _ _ = _
      simp only [read, find, htarget, hentry]
      rfl
    · rfl
  write_again h text' := by
    obtain ⟨place, htarget, hentry⟩ := target_of_write (write_run_ok h)
    rw [write_run, write, htarget]
    simp only [hentry]
    rfl

theorem steady : Files.Steady FileTree where
  toLawful := lawful
  readBytes_state _ _ := rfl
  size?_state _ _ := rfl
  size?_written {_ text _ _} h := by
    obtain ⟨place, htarget, hentry⟩ := target_of_write (write_run_ok h)
    refine ⟨text.toUTF8.size, ?_⟩
    change FileTree.size? _ _ = _
    simp only [size?, find, htarget, hentry]
    rfl

end FileTree

end Spreadsheet
