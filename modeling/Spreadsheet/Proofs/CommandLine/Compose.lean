import Spreadsheet.Proofs.CommandLine.Edits
import Spreadsheet.Proofs.CommandLine.Session
import Spreadsheet.Proofs.Sheet.Reload
import Spreadsheet.Proofs.Sheet.Unobserved

/-! Two sessions with a file between them. The sheet that is opened is the one that was saved, but
for the slots of its names, so that the edits of the second session go as they would have gone in
the first. -/

namespace Spreadsheet

open Sheet

namespace Session

inductive LineAlike (rules : NameRules) : Edit → String → String → Prop
  | set {name content : String} {order order' : List String}
    (h : Reordered (rules.resolve name) order order') :
    LineAlike rules (.set name content) (setLine order) (setLine order')
  | check {name content : String} {result result' : Except EditError Unit}
    (h : Alike Eq result result') :
    LineAlike rules (.check name content) (outcomeLine name result) (outcomeLine name result')

inductive AnswerAlike (rules : NameRules) :
    Edit → Except Failure String → Except Failure String → Prop
  | accepted {edit : Edit} {line line' : String} (h : LineAlike rules edit line line') :
    AnswerAlike rules edit (.ok line) (.ok line')
  | rejected {name content : String} {e e' : EditError}
    (h : Alike (Reordered (rules.resolve name)) (.error e) (.error e')) :
    AnswerAlike rules (.set name content) (.error (.cannotSet name e))
      (.error (.cannotSet name e'))

inductive LinesAlike (rules : NameRules) : List Edit → List String → List String → Prop
  | nil : LinesAlike rules [] [] []
  | cons {edit : Edit} {edits : List Edit} {line line' : String} {lines lines' : List String}
    (h : LineAlike rules edit line line') (hs : LinesAlike rules edits lines lines') :
    LinesAlike rules (edit :: edits) (line :: lines) (line' :: lines')

inductive EditsAlike (rules : NameRules) (edits : List Edit) :
    List String × Except Failure Sheet → List String × Except Failure Sheet → Prop
  | finished {lines lines' : List String} {s t : Sheet} (h : LinesAlike rules edits lines lines')
    (hs : SameDocument s t) : EditsAlike rules edits (lines, .ok s) (lines', .ok t)
  | rejected {done rest : List Edit} {name content : String} {lines lines' : List String}
    {e e' : EditError} (hedits : edits = done ++ .set name content :: rest)
    (h : LinesAlike rules done lines lines')
    (he : Alike (Reordered (rules.resolve name)) (.error e) (.error e')) :
    EditsAlike rules edits (lines, .error (.cannotSet name e))
      (lines', .error (.cannotSet name e'))

lemma EditsAlike.cons {rules : NameRules} {edit : Edit} {edits : List Edit} {line line' : String}
    {result result' : List String × Except Failure Sheet} (hl : LineAlike rules edit line line')
    (h : EditsAlike rules edits result result') :
    EditsAlike rules (edit :: edits) (line :: result.1, result.2)
      (line' :: result'.1, result'.2) := by
  cases h with
  | finished h hs => exact .finished (.cons hl h) hs
  | rejected hedits h he => exact .rejected (congrArg _ hedits) (.cons hl h) he

variable {rules : NameRules} {version version' : String} {s t : Sheet}

section Alike

variable (hs : Reachable rules version s) (ht : Reachable rules version' t) (h : SameDocument s t)
include hs ht h

lemma answer_alike (edit : Edit) : AnswerAlike rules edit (answer s edit) (answer t edit) ∧
    SameDocument (s.afterEdit edit) (t.afterEdit edit) := by
  have hR := sameDocument_keptByEdits
  cases edit with
  | set name content =>
    obtain ⟨hanswer, hnext⟩ := set_alike hs.consistent ht.consistent hR h name content
    refine ⟨?_, hnext⟩
    rw [hs.rules_eq] at hanswer
    rw [answer, answer]
    generalize (s.set name content).1 = result at hanswer ⊢
    generalize (t.set name content).1 = result' at hanswer ⊢
    cases hanswer with
    | ok horder => exact .accepted (.set horder)
    | error e => exact .rejected (.error e)
    | circular cell cycle cycle' => exact .rejected (.circular cell cycle cycle')
  | check name content =>
    obtain ⟨hanswer, hnext⟩ := check_alike hs.consistent ht.consistent hR h name content
    exact ⟨.accepted (.check hanswer), hnext⟩

lemma sameDocument_afterEdits (edits : List Edit) :
    SameDocument (s.afterEdits edits) (t.afterEdits edits) := by
  induction edits generalizing s t with
  | nil => exact h
  | cons edit edits ih =>
    exact ih (hs.afterEdit edit) (ht.afterEdit edit) (answer_alike hs ht h edit).2

lemma applyEdits_alike (edits : List Edit) :
    EditsAlike rules edits (applyEdits s edits) (applyEdits t edits) := by
  induction edits generalizing s t with
  | nil => exact .finished .nil h
  | cons edit edits ih =>
    obtain ⟨hanswer, hnext⟩ := answer_alike hs ht h edit
    have ih := ih (hs.afterEdit edit) (ht.afterEdit edit) hnext
    generalize hline : answer s edit = result at hanswer
    generalize hline' : answer t edit = result' at hanswer
    cases hanswer with
    | accepted hlines =>
      rw [applyEdits_cons_of_ok hline, applyEdits_cons_of_ok hline']
      exact ih.cons hlines
    | rejected he =>
      rw [applyEdits_cons_of_error hline, applyEdits_cons_of_error hline']
      exact .rejected (List.nil_append _).symm .nil he

end Alike

lemma applyEdits_of_ok {edits : List Edit} {lines : List String}
    (h : applyEdits s edits = (lines, .ok t)) :
    (Reachable rules version s → Reachable rules version t) ∧
      ∀ edits', applyEdits s (edits ++ edits') =
        (lines ++ (applyEdits t edits').1, (applyEdits t edits').2) := by
  rcases accepted_or_rejected s edits with
    ⟨lines', haccepted⟩ | ⟨done, rest, name, content, lines', e, rfl, hdone, he⟩
  · rw [applyEdits_of_accepted haccepted] at h
    obtain ⟨rfl, hs⟩ := Prod.mk.inj h
    obtain rfl := Except.ok.inj hs
    exact ⟨fun hs => hs.afterEdits edits, applyEdits_append haccepted⟩
  · rw [applyEdits_of_rejected hdone he] at h
    cases (Prod.mk.inj h).2

variable {σ : Type} [Files (StateM σ)]

section Written

variable (hs : Reachable rules version s) (hr : rules.Idempotent) {path : String} {files files' : σ}
  (hwrite : (Files.writeText path s.toMarkup : StateM σ _).run files = (.ok (), files'))
include hs hr hwrite

lemma openFile_of_written (hσ : Files.Lawful σ) :
    ∃ t, (openFile path rules version : StateM σ _).run files' = (.ok t, files') ∧
      Reachable rules version t ∧ SameDocument s t := by
  obtain ⟨t, ht, hdocument, -, -⟩ := hs.ofRecords_records hr version
  refine ⟨t, ?_, ?_, hdocument⟩
  · rw [openFile_of_readText rules version (hσ.readText_written hwrite), ofText_toMarkup,
      if_pos hs.version_eq, ht]
  · have hload := (@Reachable.empty rules version).load s.toMarkup
    rwa [load_toMarkup ht] at hload

lemma openSheet_of_written (hσ : Files.Steady σ) :
    ∃ t, (openSheet (some path) rules version : StateM σ _).run files' = (.ok t, files') ∧
      Reachable rules version t ∧ SameDocument s t := by
  obtain ⟨t, hopen, ht⟩ := openFile_of_written hs hr hwrite hσ.toLawful
  refine ⟨t, ?_, ht⟩
  have hexists : (Files.exists? path : StateM σ _).run files' = (true, files') := by
    obtain ⟨size, hsize⟩ := hσ.size?_written hwrite
    rw [Files.exists?, StateM.run_bind, hσ.size?_state, hsize]
    rfl
  rw [openSheet, StateM.run_bind, hexists, if_pos rfl, StateM.run_bind, hopen]
  rfl

end Written

end Session

namespace Program

open Session

structure CommandLine (items : List Item) (edits : List Edit) (file output : Option String) :
    Prop where
  valid : ∀ item ∈ items, item.Valid
  single : (items.filterMap Item.file?).length ≤ 1
  edits : (Arguments.ofItems items).edits = edits
  file : (Arguments.ofItems items).file = file
  output : (Arguments.ofItems items).output = output

/-- The first outcome is the second one without the lines before: the edits go alike, and unless one
is rejected, the same cells are listed after them. -/
inductive Continues (rules : NameRules) (edits : List Edit) (before : List String) :
    Outcome → Outcome → Prop
  | finished {lines lines' : List String} {s : Sheet} (h : LinesAlike rules edits lines lines')
    (errors errors' : List String) :
    Continues rules edits before ⟨0, lines' ++ table s, errors'⟩
      ⟨0, before ++ lines ++ table s, errors⟩
  | rejected {done rest : List Edit} {name content : String} {lines lines' : List String}
    {e e' : EditError} (hedits : edits = done ++ .set name content :: rest)
    (h : LinesAlike rules done lines lines')
    (he : Alike (Reordered (rules.resolve name)) (.error e) (.error e'))
    (warnings warnings' : List String) :
    Continues rules edits before
      ⟨1, lines', warnings' ++ ["Error: " ++ (Failure.cannotSet name e').message]⟩
      ⟨1, before ++ lines, warnings ++ ["Error: " ++ (Failure.cannotSet name e).message]⟩

section Outcomes

variable {σ : Type} [Files (StateM σ)] (hσ : Files.Steady σ) {config : Config}
  {own version : String} {items : List Item} {edits : List Edit} {file : Option String} {s : Sheet}
  {files : σ}
include hσ

lemma run_unsaved (h : CommandLine items edits file none)
    (hc : Configured own config version (.ofItems items) files)
    (hopen : (openSheet file config.nameRules version : StateM σ _).run files = (.ok s, files)) :
    ∃ warnings, (run (items.flatMap Item.render) own : StateM σ _).run files =
      (.ofReport (reportOf warnings (applyEdits s edits)), files) := by
  rw [← h.file] at hopen
  obtain ⟨warnings, hrun⟩ := Session.run_unsaved hσ hc hopen h.output
  refine ⟨warnings, ?_⟩
  rw [run_items h.valid h.single, hrun, h.edits]

lemma run_saved {p : String} (h : CommandLine items edits none (some p))
    (hc : Configured own config version (.ofItems items) files) {lines : List String}
    (hedits : applyEdits (.empty config.nameRules version) edits = (lines, .ok s))
    (hversion : Text.isBlankText s.version = false) {files' : σ}
    (hwrite : (Files.writeText (Path.forSaving p) s.toMarkup : StateM σ _).run files =
      (.ok (), files')) :
    ∃ errors, (run (items.flatMap Item.render) own : StateM σ _).run files =
      (⟨0, lines ++ ("Saved to " ++ Path.forSaving p) :: table s, errors⟩, files') := by
  have hopen : (openSheet (Arguments.ofItems items).file config.nameRules version :
      StateM σ _).run files = (.ok (.empty config.nameRules version), files) := by
    rw [h.file]
    rfl
  obtain ⟨warnings, hrun⟩ := run_of_opened hσ hc hopen
  rw [← h.edits] at hedits
  rw [run_items h.valid h.single, hrun, editAndFinish_of_ok hedits, h.output]
  dsimp only
  rw [finish_of_written hversion hwrite]
  exact ⟨_, rfl⟩

end Outcomes

lemma continues_of_editsAlike {rules : NameRules} {edits : List Edit}
    {result result' : List String × Except Failure Sheet}
    (h : EditsAlike rules edits result result') (before : List String)
    (warnings warnings' : List Config.Warning) :
    Continues rules edits before (.ofReport (reportOf warnings' result'))
      (.ofReport (reportOf warnings (before ++ result.1, result.2))) := by
  cases h with
  | @finished lines lines' s t h hs =>
    have htable : table t = table s := by rw [table, hs.cells, table]
    simp only [reportOf, htable]
    exact .finished h _ _
  | rejected hedits h he => exact .rejected hedits h he _ _

section Compose

variable {σ : Type} [Files (StateM σ)] (hσ : Files.Steady σ) {config : Config}
  {own version p : String} {items₁ items₂ items : List Item} {edits₁ edits₂ : List Edit}
  {lines : List String} {s : Sheet} {files files' files₀ : σ}
include hσ

theorem run_composes (h₁ : CommandLine items₁ edits₁ none (some p))
    (h₂ : CommandLine items₂ edits₂ (some (Path.forSaving p)) none)
    (h : CommandLine items (edits₁ ++ edits₂) none none)
    (hc₁ : Configured own config version (.ofItems items₁) files)
    (hc₂ : Configured own config version (.ofItems items₂) files')
    (hc : Configured own config version (.ofItems items) files₀)
    (hversion : Text.isBlankText version = false)
    (haccepted : applyEdits (.empty config.nameRules version) edits₁ = (lines, .ok s))
    (hwrite : (Files.writeText (Path.forSaving p) s.toMarkup : StateM σ _).run files =
      (.ok (), files')) :
    ∃ first second both : Outcome,
      (run (items₁.flatMap Item.render) own : StateM σ _).run files = (first, files') ∧
      (run (items₂.flatMap Item.render) own : StateM σ _).run files' = (second, files') ∧
      (run (items.flatMap Item.render) own : StateM σ _).run files₀ = (both, files₀) ∧
      first.exitCode = 0 ∧ first.lines = lines ++ ("Saved to " ++ Path.forSaving p) :: table s ∧
      Continues config.nameRules edits₂ lines second both := by
  obtain ⟨hreachable, happend⟩ := applyEdits_of_ok haccepted
  have hs : Reachable config.nameRules version s := hreachable .empty
  obtain ⟨t, hopen, ht, hdocument⟩ :=
    openSheet_of_written hs config.idempotent_nameRules hwrite hσ
  obtain ⟨errors, hfirst⟩ := run_saved hσ h₁ hc₁ haccepted (hs.version_eq ▸ hversion) hwrite
  obtain ⟨warnings', hsecond⟩ := run_unsaved hσ h₂ hc₂ hopen
  obtain ⟨warnings, hboth⟩ := run_unsaved hσ h hc rfl
  refine ⟨_, _, _, hfirst, hsecond, hboth, rfl, rfl, ?_⟩
  rw [happend]
  exact continues_of_editsAlike (applyEdits_alike hs ht hdocument edits₂) lines warnings warnings'

end Compose

theorem run_composes_in_tree :
    ∃ first second both files',
      (run ["--no-config", "--set", "b1==a1", "-o", "doc"] "" : StateM FileTree _).run .fresh =
        (first, files') ∧
      (run ["--no-config", "doc.ss", "--check", "a1==b1", "--set", "a1=one"] "" :
        StateM FileTree _).run files' = (second, files') ∧
      (run ["--no-config", "--set", "b1==a1", "--check", "a1==b1", "--set", "a1=one"] "" :
        StateM FileTree _).run .fresh = (both, .fresh) ∧
      first.exitCode = 0 ∧
      Continues Config.standard.nameRules [.check "a1" "=b1", .set "a1" "one"]
        ["B1: recalculated B1"] second both := by
  have ha : '=' ∉ "a1".toList ∧ Text.isBlankText "a1" = false := by decide +kernel
  have hb : '=' ∉ "b1".toList ∧ Text.isBlankText "b1" = false := by decide +kernel
  have hpath : Path.forSaving "doc" = "doc.ss" := by decide +kernel
  have h₁ : CommandLine [.noConfig, .set true "b1" "=a1", .output false "doc"]
      [.set "b1" "=a1"] none (some "doc") :=
    ⟨by simp [Item.Valid, hb], by decide, by decide +kernel, rfl, rfl⟩
  have h₂ : CommandLine [.noConfig, .file "doc.ss", .check "a1" "=b1", .set true "a1" "one"]
      [.check "a1" "=b1", .set "a1" "one"] (some (Path.forSaving "doc")) none :=
    ⟨by simp [Item.Valid, ha], by decide, by decide +kernel, by rw [hpath]; rfl, rfl⟩
  have h : CommandLine [.noConfig, .set true "b1" "=a1", .check "a1" "=b1", .set true "a1" "one"]
      [.set "b1" "=a1", .check "a1" "=b1", .set "a1" "one"] none none :=
    ⟨by simp [Item.Valid, ha, hb], by decide, by decide +kernel, rfl, rfl⟩
  have hset : (empty Config.standard.nameRules "1.0").set "b1" "=a1" = (.ok ["B1"], _) :=
    Prod.ext (by cbv) rfl
  have haccepted : applyEdits (empty Config.standard.nameRules "1.0") [.set "b1" "=a1"] =
      (["B1: recalculated B1"],
        .ok ((empty Config.standard.nameRules "1.0").set "b1" "=a1").2) := by
    rw [applyEdits_set, hset]
    rfl
  have hwritten (bytes : ByteArray) : FileTree.fresh.write "doc.ss" bytes =
      .ok (FileTree.fresh.put ["doc.ss", "work"] (.file bytes)) := by rfl
  have hwrite (s : Sheet) : (Files.writeText (Path.forSaving "doc") s.toMarkup :
      StateM FileTree _).run .fresh = (.ok (),
        FileTree.fresh.put ["doc.ss", "work"] (.file s.toMarkup.toUTF8)) := by
    rw [hpath, FileTree.write_run]
    simp only [hwritten]
  have hc₁ : Configured "" Config.standard "1.0"
    (.ofItems [.noConfig, .set true "b1" "=a1", .output false "doc"]) FileTree.fresh := ⟨rfl, rfl⟩
  obtain ⟨first, second, both, hfirst, hsecond, hboth, hcode, -, hcontinues⟩ :=
    run_composes FileTree.steady h₁ h₂ h hc₁ ⟨rfl, rfl⟩ ⟨rfl, rfl⟩ (by decide +kernel) haccepted
      (hwrite _)
  exact ⟨first, second, both, _, hfirst, hsecond, hboth, hcode, hcontinues⟩

end Program

end Spreadsheet
