import Spreadsheet.Proofs.CommandLine.Compose
import Spreadsheet.Proofs.Sheet.Version

/-! How a run ends. Its edits are made in order until one is rejected, after which nothing is
written; if none is, the sheet that they lead to is saved and its cells are listed. -/

namespace Spreadsheet

namespace Sheet

structure Lists (s : Sheet) (lines : List String) : Prop where
  nodup : s.names.Nodup
  mem_names (n : String) : n ∈ s.names ↔ (s.cell n).contents.isBlank = false
  entries : List.Forall₂ (fun n line => ∃ contents value, s.contents n = .ok contents ∧
    s.value n = .ok value ∧ line = n ++ "\t" ++ contents.inputText ++ "\t" ++ value.display)
    s.names lines

lemma Enterable.lists_table {s : Sheet} (hs : Enterable s.rules s) (hr : s.rules.Idempotent) :
    s.Lists (Session.table s) where
  nodup := hs.names
  mem_names n := by
    have hnone := s.cells.get?_eq_none n
    rw [cell]
    cases hget : s.cells.get? n with
    | none => exact iff_of_false (hnone.mp hget) Bool.noConfusion
    | some cell =>
      have hstored : s.cells.contents? n = some cell.contents := by
        rw [Cells.contents?, hget]
        rfl
      apply iff_of_true
      · by_contra hn
        cases hget.symm.trans (hnone.mpr hn)
      · exact (hs.entered hstored).2.2
  entries := by
    rw [names, Cells.names, Session.table, List.forall₂_map_left_iff, List.forall₂_map_right_iff,
      List.forall₂_same]
    intro entry he
    have hname : s.rules.resolve entry.1 = some entry.1 := (hs.gives_recordOf hr he).1.1
    have hresolve : s.resolve entry.1 = .ok entry.1 := by
      rw [resolve, hname]
    have hcell : s.cell entry.1 = entry.2 := by
      rw [cell, Cells.get?_of_mem hs.names he]
      rfl
    refine ⟨entry.2.contents, entry.2.value, ?_, ?_, rfl⟩
    · rw [contents, hresolve, ← hcell]
      rfl
    · rw [value, hresolve, ← hcell]
      rfl

lemma Reachable.lists_table {rules : NameRules} {version : String} {s : Sheet}
    (h : Reachable rules version s) (hr : rules.Idempotent) : s.Lists (Session.table s) := by
  obtain ⟨rfl, -, hs⟩ := h.with_invariant (enterable_invariant rules version)
  exact hs.lists_table hr

lemma Reachable.sameDocument_check {rules : NameRules} {version : String} {s : Sheet}
    (h : Reachable rules version s) (name content : String) :
    SameDocument s (s.check name content).2 :=
  (h.consistent.sameState_silent (r := .check name content) trivial).toSameDocument

end Sheet

namespace Program

open Sheet Session

variable {σ : Type} [Files (StateM σ)]

inductive Initial (rules : NameRules) (version : String) (files : σ) : Option String → Sheet → Prop
  | absent : Initial rules version files none (.empty rules version)
  | missing {path : String} (h : ((Files.exists? path : StateM σ _).run files).1 = false) :
    Initial rules version files (some path) (.empty rules version)
  | opened {path : String} {s : Sheet}
    (hexists : ((Files.exists? path : StateM σ _).run files).1 = true)
    (h : ((openFile path rules version : StateM σ _).run files).1 = .ok s) :
    Initial rules version files (some path) s

section Initial

variable (hσ : Files.Steady σ) {rules : NameRules} {version : String} {files : σ}
  {file : Option String} {s : Sheet} (h : Initial rules version files file s)
include hσ h

lemma Initial.openSheet_run :
    (openSheet file rules version : StateM σ _).run files = (.ok s, files) := by
  have hexists (path : String) : (Files.exists? path : StateM σ _).run files =
      (((Files.exists? path : StateM σ _).run files).1, files) :=
    Prod.ext rfl (hσ.size?_state path files)
  cases h with
  | absent => rfl
  | @missing path h =>
    rw [openSheet, StateM.run_bind, hexists, h]
    rfl
  | @opened path s hpath h =>
    have hopen : (openFile path rules version : StateM σ _).run files = (.ok s, files) :=
      Prod.ext h (hσ.readText_state files path)
    rw [openSheet, StateM.run_bind, hexists, hpath, if_pos rfl, StateM.run_bind, hopen]
    rfl

omit hσ in
lemma Initial.reachable : Reachable rules version s := by
  cases h with
  | absent => exact .empty
  | missing h => exact .empty
  | opened hexists h =>
    obtain ⟨text, -, htext⟩ := openFile_eq_ok_iff.mp (Prod.ext h rfl)
    exact reachable_of_ofText htext

end Initial

inductive Ends (rules : NameRules) (version : String) (a : Arguments) (s : Sheet) (files : σ) :
    Outcome → σ → Prop
  | rejected {done rest : List Edit} {name content : String} {lines : List String} {e : EditError}
    (hedits : a.edits = done ++ .set name content :: rest)
    (h : answers s done = lines.map .ok)
    (he : ((s.afterEdits done).set name content).1 = .error e) (warnings : List String) :
    Ends rules version a s files
      ⟨1, lines, warnings ++ ["Error: " ++ (Failure.cannotSet name e).message]⟩ files
  | listed {lines table : List String} (h : answers s a.edits = lines.map .ok)
    (ho : a.output = none) (ht : (s.afterEdits a.edits).Lists table) (warnings : List String) :
    Ends rules version a s files ⟨0, lines ++ table, warnings⟩ files
  | unsaved {lines : List String} {path : String} {e : StorageError} {t : Sheet} {files' : σ}
    (h : answers s a.edits = lines.map .ok) (ho : a.output = some path)
    (hsave : ((s.afterEdits a.edits).save path : StateM σ _).run files = ((.error e, t), files'))
    (warnings : List String) :
    Ends rules version a s files
      ⟨1, lines, warnings ++ ["Error: " ++ (Failure.cannotSave path e).message]⟩ files'
  | saved {lines table : List String} {path q : String} {t u : Sheet} {files' : σ}
    (h : answers s a.edits = lines.map .ok) (ho : a.output = some path)
    (hsave : ((s.afterEdits a.edits).save path : StateM σ _).run files = ((.ok q, t), files'))
    (ht : (s.afterEdits a.edits).Lists table)
    (hopen : (openFile q rules version : StateM σ _).run files' = (.ok u, files'))
    (hu : u.Lists table) (warnings : List String) :
    Ends rules version a s files ⟨0, lines ++ ("Saved to " ++ q) :: table, warnings⟩ files'

section Ends

variable (hσ : Files.Steady σ) {config : Config} {own version : String} {args : List String}
  {a : Arguments} {s : Sheet} {lines : List String} {files : σ}

lemma ofReport_none (warnings : List Config.Warning) (lines : List String) :
    Outcome.ofReport ⟨warnings, lines, none⟩ =
      ⟨0, lines, warnings.map fun w => "Warning: " ++ w.message⟩ :=
  congrArg (Outcome.mk 0 lines) (List.append_nil _)

include hσ in
lemma ends_of_accepted (hs : Reachable config.nameRules version s)
    (h : answers s a.edits = lines.map .ok) (warnings : List Config.Warning) :
    Ends config.nameRules version a s files
      (.ofReport ⟨warnings, ((editAndFinish a s : StateM σ _).run files).1.1,
        ((editAndFinish a s : StateM σ _).run files).1.2⟩)
      ((editAndFinish a s : StateM σ _).run files).2 := by
  have hr := config.idempotent_nameRules
  have ht := hs.afterEdits a.edits
  rw [editAndFinish_of_ok (applyEdits_of_accepted h)]
  cases ho : a.output with
  | none =>
    have hfinish : (finish none (s.afterEdits a.edits) : StateM σ _).run files =
        ((table (s.afterEdits a.edits), none), files) := rfl
    rw [hfinish]
    dsimp only
    rw [ofReport_none]
    exact .listed h ho (ht.lists_table hr) _
  | some path =>
    cases hsave : ((s.afterEdits a.edits).save path : StateM σ _).run files with
    | mk result files' =>
      obtain ⟨result, t⟩ := result
      cases result with
      | error e =>
        rw [finish_of_unsaved hsave]
        dsimp only
        rw [List.append_nil]
        exact .unsaved h ho hsave _
      | ok q =>
        obtain ⟨hversion, rfl, hwrite⟩ := save_ok hsave
        obtain ⟨u, hopen, hu, hdocument⟩ := openFile_of_written ht hr hwrite hσ.toLawful
        have htable : table u = table (s.afterEdits a.edits) := by
          rw [table, hdocument.cells, table]
        rw [finish_of_written hversion hwrite]
        dsimp only
        rw [ofReport_none]
        exact .saved h ho hsave (ht.lists_table hr) hopen (htable ▸ hu.lists_table hr) _

/-- A run makes its edits in order and saves all of them or none. A check ends no run, and leaves
the edits after it as they are without it, but for the order of names in what they print and for
the cycle that an error shows. -/
theorem run_ends (hσ : Files.Steady σ) (hargs : Arguments.parse args = .ok a)
    (hhelp : a.help = false) (hc : Configured own config version a files)
    (hs : Initial config.nameRules version files a.file s) :
    (∃ outcome files', (run args own : StateM σ _).run files = (outcome, files') ∧
      Ends config.nameRules version a s files outcome files') ∧
    ∀ done name content later,
      SameDocument (s.afterEdits (done ++ later))
        (s.afterEdits (done ++ .check name content :: later)) ∧
      ∀ edit, AnswerAlike config.nameRules edit
        (answer (s.afterEdits (done ++ later)) edit)
        (answer (s.afterEdits (done ++ .check name content :: later)) edit) := by
  constructor
  · obtain ⟨warnings, hrun⟩ := run_of_opened hσ hc (hs.openSheet_run hσ)
    rw [run_parsed hargs hhelp, hrun]
    refine ⟨_, _, rfl, ?_⟩
    rcases accepted_or_rejected s a.edits with
      ⟨lines, h⟩ | ⟨done, rest, name, content, lines, e, hedits, h, he⟩
    · exact ends_of_accepted hσ hs.reachable h warnings
    · have happly : applyEdits s a.edits = (lines, .error (.cannotSet name e)) :=
        hedits ▸ applyEdits_of_rejected h he
      rw [editAndFinish_of_error happly]
      exact .rejected hedits h he _
  · intro done name content later
    have hdone := hs.reachable.afterEdits done
    have hsame := sameDocument_afterEdits hdone (hdone.check name content)
      (hdone.sameDocument_check name content) later
    have hcheck : s.afterEdits (done ++ .check name content :: later) =
        ((s.afterEdits done).check name content).2.afterEdits later := afterEdits_append _ _ _
    rw [← hcheck, ← afterEdits_append] at hsame
    refine ⟨hsame, fun edit => ?_⟩
    exact (answer_alike (hs.reachable.afterEdits _) (hs.reachable.afterEdits _) hsame edit).1

theorem run_ends_in_tree :
    ∃ a, Arguments.parse ["--no-config", "--check", "a1==a1", "-s", "b1=two", "-o", "doc"] = .ok a ∧
      a.help = false ∧ Configured "" Config.standard "1.0" a FileTree.fresh ∧
      Initial Config.standard.nameRules "1.0" FileTree.fresh a.file
        (empty Config.standard.nameRules "1.0") ∧
      (∃ outcome files',
        (run ["--no-config", "--check", "a1==a1", "-s", "b1=two", "-o", "doc"] "" :
          StateM FileTree _).run .fresh = (outcome, files') ∧
        Ends Config.standard.nameRules "1.0" a (empty Config.standard.nameRules "1.0")
          FileTree.fresh outcome files') ∧
      AnswerAlike Config.standard.nameRules (.set "b1" "two")
        (answer (empty Config.standard.nameRules "1.0") (.set "b1" "two"))
        (answer ((empty Config.standard.nameRules "1.0").afterEdit (.check "a1" "=a1"))
          (.set "b1" "two")) := by
  have hargs : Arguments.parse
      ["--no-config", "--check", "a1==a1", "-s", "b1=two", "-o", "doc"] = .ok
        { Arguments.none with
          noConfig := true
          edits := [.check "a1" "=a1", .set "b1" "two"]
          output := some "doc" } := rfl
  have hinitial : Initial Config.standard.nameRules "1.0" FileTree.fresh none
    (empty Config.standard.nameRules "1.0") := .absent
  obtain ⟨hends, hcheck⟩ := run_ends FileTree.steady hargs rfl ⟨rfl, rfl⟩ hinitial
  exact ⟨_, hargs, rfl, ⟨rfl, rfl⟩, hinitial, hends, (hcheck [] "a1" "=a1" []).2 _⟩

end Ends

section Fresh

variable {s : Sheet}

lemma run_fresh (args : List String) {edits : List Edit} {lines : List String}
    (hargs : Arguments.parse args = .ok { Arguments.none with noConfig := true, edits })
    (h : answers (empty Config.standard.nameRules "1.0") edits = lines.map .ok) :
    ∃ outcome, (run args "" : StateM FileTree _).run .fresh = (outcome, .fresh) ∧
      outcome.lines.take lines.length = lines := by
  have hc : Configured "" Config.standard "1.0" { Arguments.none with noConfig := true, edits }
    FileTree.fresh := ⟨rfl, rfl⟩
  obtain ⟨warnings, hrun⟩ := Session.run_unsaved FileTree.steady hc rfl rfl
  rw [run_parsed hargs rfl, hrun]
  dsimp only
  rw [applyEdits_of_accepted h, reportOf, ofReport_none]
  exact ⟨_, rfl, List.take_left⟩

lemma answers_unchecked (hs : s = empty Config.standard.nameRules "1.0") :
    answers s [.set "B1" "=A1", .set "C1" "=A1", .check "A1" "=B1+C1"] =
      [setLine ["B1"], setLine ["C1"],
        outcomeLine "A1" (.error (.circular "A1" ⟨["A1", "B1", "A1"]⟩))].map .ok := by
  have hb : (s.set "B1" "=A1").1 = .ok ["B1"] := by
    rw [hs]
    cbv
  have hc : ((s.afterEdit (.set "B1" "=A1")).set "C1" "=A1").1 = .ok ["C1"] := by
    rw [hs]
    cbv
  have ha : (((s.afterEdit (.set "B1" "=A1")).afterEdit (.set "C1" "=A1")).check "A1" "=B1+C1").1 =
      .error (.circular "A1" ⟨["A1", "B1", "A1"]⟩) := by
    rw [hs]
    cbv
  rw [answers, answers, answers, answers, answer_set hb, answer_set hc, answer, ha]
  rfl

lemma answers_checked (hs : s = empty Config.standard.nameRules "1.0") :
    answers s [.check "A1" "=A1+B1+C1", .set "B1" "=A1", .set "C1" "=A1", .check "A1" "=B1+C1"] =
      [outcomeLine "A1" (.error (.circular "A1" ⟨["A1", "A1"]⟩)), setLine ["B1"], setLine ["C1"],
        outcomeLine "A1" (.error (.circular "A1" ⟨["A1", "C1", "A1"]⟩))].map .ok := by
  have hself : (s.check "A1" "=A1+B1+C1").1 = .error (.circular "A1" ⟨["A1", "A1"]⟩) := by
    rw [hs]
    cbv
  have hb : ((s.afterEdit (.check "A1" "=A1+B1+C1")).set "B1" "=A1").1 = .ok ["B1"] := by
    rw [hs]
    cbv
  have hc : (((s.afterEdit (.check "A1" "=A1+B1+C1")).afterEdit (.set "B1" "=A1")).set
      "C1" "=A1").1 = .ok ["C1"] := by
    rw [hs]
    cbv
  have ha : ((((s.afterEdit (.check "A1" "=A1+B1+C1")).afterEdit (.set "B1" "=A1")).afterEdit
      (.set "C1" "=A1")).check "A1" "=B1+C1").1 =
        .error (.circular "A1" ⟨["A1", "C1", "A1"]⟩) := by
    rw [hs]
    cbv
  rw [answers, answers, answers, answers, answers, answer_set hb, answer_set hc, answer, answer,
    hself, ha]
  rfl

theorem check_changes_shown_cycle :
    ∃ checked unchecked : Outcome,
      (run ["--no-config", "--check", "A1==A1+B1+C1", "-s", "B1==A1", "-s", "C1==A1",
        "--check", "A1==B1+C1"] "" : StateM FileTree _).run .fresh = (checked, .fresh) ∧
      (run ["--no-config", "-s", "B1==A1", "-s", "C1==A1", "--check", "A1==B1+C1"] "" :
        StateM FileTree _).run .fresh = (unchecked, .fresh) ∧
      checked.lines.take 4 =
        ["check A1: setting A1 would create a circular dependency: A1 -> A1",
          "B1: recalculated B1", "C1: recalculated C1",
          "check A1: setting A1 would create a circular dependency: A1 -> C1 -> A1"] ∧
      unchecked.lines.take 3 =
        ["B1: recalculated B1", "C1: recalculated C1",
          "check A1: setting A1 would create a circular dependency: A1 -> B1 -> A1"] ∧
      ¬ ["A1", "C1", "A1"].Perm ["A1", "B1", "A1"] := by
  obtain ⟨checked, hrun, hlines⟩ := run_fresh
    ["--no-config", "--check", "A1==A1+B1+C1", "-s", "B1==A1", "-s", "C1==A1",
      "--check", "A1==B1+C1"] rfl (answers_checked rfl)
  obtain ⟨unchecked, hrun', hlines'⟩ := run_fresh
    ["--no-config", "-s", "B1==A1", "-s", "C1==A1", "--check", "A1==B1+C1"] rfl
    (answers_unchecked rfl)
  refine ⟨checked, unchecked, hrun, hrun', hlines.trans ?_, hlines'.trans ?_, by decide⟩
  · decide +kernel
  · decide +kernel

end Fresh

end Program

end Spreadsheet
