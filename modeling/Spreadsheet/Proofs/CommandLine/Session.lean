import Spreadsheet.CommandLine.Program
import Spreadsheet.Proofs.CommandLine.Arguments
import Spreadsheet.Proofs.Files.Lawful
import Spreadsheet.Proofs.Sheet.Reachable

namespace Spreadsheet

lemma StateM.run_bind {σ α β : Type} (action : StateM σ α) (next : α → StateM σ β) (files : σ) :
    (action >>= next).run files = (next (action.run files).1).run (action.run files).2 := rfl

variable {σ : Type} [Files (StateM σ)]

namespace Files.Steady

variable (hσ : Files.Steady σ) (files : σ)
include hσ

lemma readText_state (path : String) : ((readText path : StateM σ _).run files).2 = files :=
  hσ.readBytes_state path files

lemma loadFile_state (path : String) (size : Nat) :
    ((Config.loadFile path size : StateM σ _).run files).2 = files := by
  rw [Config.loadFile]
  split
  · rfl
  · rw [StateM.run_bind, hσ.readText_state]
    cases ((readText path : StateM σ _).run files).1 with
    | error e => rfl
    | ok text =>
      dsimp only
      cases Config.parse text <;> rfl

lemma load_state (given : Option String) (own : String) :
    ((Config.load given own : StateM σ _).run files).2 = files := by
  rw [Config.load, StateM.run_bind, hσ.size?_state]
  cases ((size? (given.getD own) : StateM σ _).run files).1 with
  | none => rfl
  | some size => exact hσ.loadFile_state files _ size

lemma loadConfig_run (a : Arguments) (own : String) :
    (Session.loadConfig a own : StateM σ _).run files =
      (((Session.loadConfig a own : StateM σ _).run files).1, files) := by
  have hstate : ((Session.loadConfig a own : StateM σ _).run files).2 = files := by
    rw [Session.loadConfig]
    split
    · rfl
    · exact hσ.load_state files _ own
  exact Prod.ext rfl hstate

end Files.Steady

namespace Session

variable {a : Arguments} {own : String} {s t : Sheet} {lines : List String} {files files' : σ}

lemma editAndFinish_of_error {failure : Failure}
    (h : applyEdits s a.edits = (lines, .error failure)) :
    (editAndFinish a s : StateM σ _).run files = ((lines, some failure), files) := by
  rw [editAndFinish, h]
  rfl

lemma editAndFinish_of_ok (h : applyEdits s a.edits = (lines, .ok t)) :
    (editAndFinish a s : StateM σ _).run files =
      let finished := (finish a.output t : StateM σ _).run files
      ((lines ++ finished.1.1, finished.1.2), finished.2) := by
  rw [editAndFinish, h]
  rfl

lemma finish_of_written {path : String} (hversion : Text.isBlankText s.version = false)
    (hwrite : (Files.writeText (Path.forSaving path) s.toMarkup : StateM σ _).run files =
      (.ok (), files')) : (finish (some path) s : StateM σ _).run files =
      ((("Saved to " ++ Path.forSaving path) :: table s, none), files') := by
  rw [finish, StateM.run_bind, Sheet.save_of_not_blank s path files hversion, hwrite]
  rfl

lemma finish_of_unsaved {path : String} {e : StorageError}
    (h : (s.save path : StateM σ _).run files = ((.error e, t), files')) :
    (finish (some path) s : StateM σ _).run files = (([], some (.cannotSave path e)), files') := by
  rw [finish, StateM.run_bind, h]
  rfl

structure Configured (own : String) (config : Config) (version : String) (a : Arguments)
    (files : σ) : Prop where
  found : ((loadConfig a own : StateM σ _).run files).1.1 = config
  tag : a.versionTag.getD config.version = version

variable (hσ : Files.Steady σ) {config : Config} {version : String}
  (hc : Configured own config version a files)
include hσ hc

lemma run_of_opened (hopen : (openSheet a.file config.nameRules version : StateM σ _).run files =
    (.ok s, files)) : ∃ warnings, (run a own : StateM σ _).run files =
      let edited := (editAndFinish a s : StateM σ _).run files
      (⟨warnings, edited.1.1, edited.1.2⟩, edited.2) := by
  obtain ⟨rfl, rfl⟩ := hc
  refine ⟨((loadConfig a own : StateM σ _).run files).1.2, ?_⟩
  rw [run, StateM.run_bind, hσ.loadConfig_run]
  dsimp only
  rw [StateM.run_bind, hopen]
  rfl

def reportOf (warnings : List Config.Warning) : List String × Except Failure Sheet → Report
  | (lines, .ok s) => ⟨warnings, lines ++ table s, none⟩
  | (lines, .error failure) => ⟨warnings, lines, some failure⟩

lemma run_unsaved (hopen : (openSheet a.file config.nameRules version : StateM σ _).run files =
    (.ok s, files)) (ho : a.output = none) : ∃ warnings, (run a own : StateM σ _).run files =
      (reportOf warnings (applyEdits s a.edits), files) := by
  obtain ⟨warnings, hrun⟩ := run_of_opened hσ hc hopen
  refine ⟨warnings, hrun.trans ?_⟩
  cases hedits : applyEdits s a.edits with
  | mk lines result =>
    cases result with
    | error failure => rw [editAndFinish_of_error hedits, reportOf]
    | ok t =>
      rw [editAndFinish_of_ok hedits, ho]
      rfl

end Session

lemma Program.run_parsed {args : List String} {a : Arguments} (h : Arguments.parse args = .ok a)
    (hhelp : a.help = false) (own : String) (files : σ) :
    (Program.run args own : StateM σ _).run files =
      let report := (Session.run a own : StateM σ _).run files
      (.ofReport report.1, report.2) := by
  rw [Program.run, h]
  dsimp only
  rw [hhelp]
  rfl

lemma Program.run_items {items : List Item} (hv : ∀ item ∈ items, item.Valid)
    (hf : (items.filterMap Item.file?).length ≤ 1) (own : String) (files : σ) :
    (Program.run (items.flatMap Item.render) own : StateM σ _).run files =
      let report := (Session.run (.ofItems items) own : StateM σ _).run files
      (.ofReport report.1, report.2) :=
  run_parsed (Arguments.parse_items hv hf) (Arguments.help_ofItems items) own files

end Spreadsheet
