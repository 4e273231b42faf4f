import Spreadsheet.Proofs.Document.Grammar
import Spreadsheet.Proofs.Sheet.Reload

/-! The version of a saved document, read alone. The root has it, no event after the root changes
it, and none before the root is an element, so that a document that is read as a whole has the
version that is found there. -/

namespace Spreadsheet

namespace Document

open Markup

section Steps

variable {p q : Progress} {event : Event} {events : List Event}

structure Keeps (p q : Progress) : Prop where
  version : q.version = p.version
  scope : q.scope ≠ .outside

lemma keeps_enter {scope : Scope} (h : scope ≠ .outside) : Keeps p (p.enter scope) := ⟨rfl, h⟩

lemma keeps_skipText {raw : List Char} (hp : p.scope ≠ .outside) (h : skipText p raw = .ok q) :
    Keeps p q := by
  obtain ⟨-, rfl⟩ := skipText_eq_ok_iff.mp h
  exact ⟨rfl, hp⟩

lemma keeps_stepSheet (hp : p.scope ≠ .outside) (h : stepSheet p event = .ok q) : Keeps p q := by
  cases event with
  | text raw => exact keeps_skipText hp h
  | opening tag attributes =>
    rw [stepSheet_opening] at h
    split at h
    · obtain rfl := Except.ok.inj h
      exact keeps_enter (by simp)
    · cases h
  | closing name =>
    obtain rfl := Except.ok.inj h
    exact keeps_enter (by simp)
  | empty _ _ | characterData _ | aside => cases h

lemma keeps_stepCell {draft : Draft} (hp : p.scope ≠ .outside)
    (h : stepCell p draft event = .ok q) : Keeps p q := by
  cases event with
  | text raw => exact keeps_skipText hp h
  | opening tag attributes =>
    rw [stepCell] at h
    split at h
    · obtain rfl := Except.ok.inj h
      exact keeps_enter (by simp)
    · cases h
  | empty tag attributes =>
    rw [stepCell] at h
    split at h
    · obtain ⟨draft', -, rfl⟩ := Except.map_eq_ok_iff.mp h
      exact keeps_enter (by simp)
    · cases h
  | closing name =>
    obtain ⟨record, -, rfl⟩ := Except.map_eq_ok_iff.mp h
    exact ⟨rfl, by simp⟩
  | characterData _ | aside => cases h

lemma keeps_stepField {draft : Draft} {field : Field} {text : List Char}
    (h : stepField p draft field text event = .ok q) : Keeps p q := by
  cases event with
  | text raw =>
    obtain ⟨more, -, rfl⟩ := Except.map_eq_ok_iff.mp h
    exact keeps_enter (by simp)
  | characterData raw =>
    obtain rfl := Except.ok.inj h
    exact keeps_enter (by simp)
  | closing name =>
    obtain ⟨draft', -, rfl⟩ := Except.map_eq_ok_iff.mp h
    exact keeps_enter (by simp)
  | opening _ _ | empty _ _ | aside => cases h

lemma keeps_stepDone (hp : p.scope ≠ .outside) (h : stepDone p event = .ok q) : Keeps p q := by
  cases event with
  | text raw => exact keeps_skipText hp h
  | opening _ _ | empty _ _ | closing _ | characterData _ | aside => cases h

lemma keeps_step (hp : p.scope ≠ .outside) (h : step p event = .ok q) : Keeps p q := by
  rw [step] at h
  split at h
  · obtain rfl := Except.ok.inj h
    exact ⟨rfl, hp⟩
  · obtain ⟨scope, version, records⟩ := p
    cases scope with
    | outside => exact (hp rfl).elim
    | sheet => exact keeps_stepSheet hp h
    | cell draft => exact keeps_stepCell hp h
    | field draft field text => exact keeps_stepField h
    | done => exact keeps_stepDone hp h

lemma version_steps (hp : p.scope ≠ .outside) (h : events.foldlM step p = .ok q) :
    q.version = p.version := by
  induction events generalizing p with
  | nil => rw [Except.ok.inj h]
  | cons event events ih =>
    obtain ⟨m, hm, h⟩ := List.foldlM_cons_eq_ok_iff.mp h
    have hkeeps := keeps_step hp hm
    exact (ih hkeeps.scope h).trans hkeeps.version

lemma versionFrom_of_steps (stopped : DocumentError) (hp : p.scope = .outside)
    (hq : q.scope ≠ .outside) (h : events.foldlM step p = .ok q) :
    versionFrom stopped events = .ok q.version := by
  induction events with
  | nil =>
    obtain rfl := Except.ok.inj h
    exact (hq hp).elim
  | cons event events ih =>
    obtain ⟨m, hm, hrest⟩ := List.foldlM_cons_eq_ok_iff.mp h
    have hroot {scope : Scope} {attributes : List Char} (hscope : scope ≠ .outside)
        (hm : (versionOf attributes).map (fun v => ⟨scope, v, p.records⟩) = .ok m) :
        versionOf attributes = .ok q.version := by
      obtain ⟨v, hv, rfl⟩ := Except.map_eq_ok_iff.mp hm
      rw [hv, version_steps hscope hrest]
    by_cases haside : event = .aside
    · subst haside
      obtain rfl := Except.ok.inj hm
      exact ih hrest
    rw [step, if_neg haside, hp] at hm
    cases event with
    | text raw =>
      obtain ⟨-, rfl⟩ := skipText_eq_ok_iff.mp hm
      exact ih hrest
    | opening tag attributes | empty tag attributes =>
      simp only [stepOutside] at hm
      rw [versionFrom]
      split at hm
      · rename_i htag
        rw [if_pos htag]
        exact hroot (by simp) hm
      · cases hm
    | closing _ | characterData _ | aside => cases hm

end Steps

lemma parseVersion_of_parse {text : String} {document : Document}
    (h : parse text = .ok document) : parseVersion text = .ok document.version := by
  rw [parse, read_eq_ok_iff] at h
  obtain ⟨p, hsteps, -, hfinish⟩ := h
  obtain ⟨hdone, rfl⟩ := finish_eq_ok_iff.mp hfinish
  exact versionFrom_of_steps _ rfl (by simp [hdone]) hsteps

end Document

namespace Sheet

section Open

variable {path version : String} {rules : NameRules} {text : String} {s : Sheet}

lemma parseDocument_eq_ok_iff {document : Document} :
    parseDocument text = .ok document ↔ Document.parse text = .ok document := by
  rw [parseDocument]
  cases Document.parse text <;> simp [Except.mapError]

lemma ofText_of_parse {document : Document} (h : Document.parse text = .ok document) :
    ofText path rules version text = if document.version = version then
      ofRecords rules version document.records
      else .error (.versionMismatch path document.version version) := by
  rw [ofText, parseDocument_eq_ok_iff.mpr h]
  rfl

lemma ofText_eq_ok (h : ofText path rules version text = .ok s) : ∃ document,
    Document.parse text = .ok document ∧ document.version = version ∧
      ofRecords rules version document.records = .ok s := by
  obtain ⟨document, hparse, -⟩ := Except.bind_eq_ok_iff.mp h
  have hparse := parseDocument_eq_ok_iff.mp hparse
  rw [ofText_of_parse hparse] at h
  split at h
  · rename_i hversion
    exact ⟨document, hparse, hversion, h⟩
  · cases h

lemma reachable_of_ofText (h : ofText path rules version text = .ok s) :
    Reachable rules version s := by
  obtain ⟨document, hparse, -, hrecords⟩ := ofText_eq_ok h
  have hreload : (empty rules version).reload text = .ok s := by
    rw [reload, parseDocument_eq_ok_iff.mpr hparse]
    exact hrecords
  have hload := (@Reachable.empty rules version).load text
  rwa [load, hreload] at hload

section Files

variable {σ : Type} [Files (StateM σ)] {w : String} {files files' : σ}

omit [Files (StateM σ)] in
lemma bind_mapError_eq_ok_iff {ε δ α β : Type} {x : Except δ α × σ} {g : δ → ε}
    {f : α → Except ε β} {b : β} :
    ((x.1.mapError g).bind f, x.2) = (.ok b, files') ↔ ∃ a, x = (.ok a, files') ∧ f a = .ok b := by
  obtain ⟨r, files⟩ := x
  cases r <;> simp [Except.mapError, Except.bind, and_comm]

lemma openFile_eq_ok_iff : (openFile path rules w : StateM σ _).run files = (.ok s, files') ↔
    ∃ text, (Files.readText path : StateM σ _).run files = (.ok text, files') ∧
      ofText path rules w text = .ok s :=
  bind_mapError_eq_ok_iff (x := (Files.readText path : StateM σ _).run files)

lemma savedVersion_eq_ok_iff : (savedVersion path : StateM σ _).run files = (.ok w, files') ↔
    ∃ text, (Files.readText path : StateM σ _).run files = (.ok text, files') ∧
      Document.parseVersion text = .ok w := by
  have hversion {text : String} :
      (Document.parseVersion text).mapError StorageError.document = .ok w ↔
        Document.parseVersion text = .ok w := by
    cases Document.parseVersion text <;> simp [Except.mapError]
  simp only [← hversion]
  exact bind_mapError_eq_ok_iff (x := (Files.readText path : StateM σ _).run files)

end Files

lemma ofText_eq_error (path : String) (rules : NameRules) {v w : String}
    (hv : Document.parseVersion text = .ok v) (h : v ≠ w) :
    ∃ e, ofText path rules w text = .error e ∧
      (e = .versionMismatch path v w ∨ ∃ cause, e = .document cause) := by
  cases hparse : Document.parse text with
  | error cause =>
    refine ⟨.document cause, ?_, Or.inr ⟨cause, rfl⟩⟩
    rw [ofText, parseDocument, hparse]
    rfl
  | ok document =>
    obtain rfl := Except.ok.inj (hv.symm.trans (Document.parseVersion_of_parse hparse))
    exact ⟨_, (ofText_of_parse hparse).trans (if_neg h), Or.inl rfl⟩

end Open

theorem savedVersion_agrees :
    (∀ text document, Document.parse text = .ok document →
      Document.parseVersion text = .ok document.version) ∧
    ∀ (σ : Type) [Files (StateM σ)] (path w : String) (rules : NameRules) (files files' : σ),
      (∀ s, (openFile path rules w : StateM σ _).run files = (.ok s, files') →
        (savedVersion path : StateM σ _).run files = (.ok w, files') ∧ s.version = w) ∧
      ∀ v, (savedVersion path : StateM σ _).run files = (.ok v, files') → v ≠ w →
        ∃ e, (openFile path rules w : StateM σ _).run files = (.error e, files') ∧
          (e = .versionMismatch path v w ∨ ∃ cause, e = .document cause) := by
  refine ⟨fun text document => Document.parseVersion_of_parse,
    fun σ _ path w rules files files' => ⟨fun s hs => ?_, fun v hv hne => ?_⟩⟩
  · obtain ⟨text, hread, hs⟩ := openFile_eq_ok_iff.mp hs
    obtain ⟨document, hparse, rfl, -⟩ := ofText_eq_ok hs
    exact ⟨savedVersion_eq_ok_iff.mpr ⟨text, hread, Document.parseVersion_of_parse hparse⟩,
      (reachable_of_ofText hs).version_eq⟩
  · obtain ⟨text, hread, hv⟩ := savedVersion_eq_ok_iff.mp hv
    obtain ⟨e, he, hcause⟩ := ofText_eq_error path rules hv hne
    refine ⟨e, ?_, hcause⟩
    rw [openFile_of_readText rules w hread, he]

theorem savedVersion_agrees_of_prologue :
    ∃ text files, text = "<!--<spreadsheet version='0'/>--> <?a?><spreadsheet version='1&amp;2'/>" ∧
      Document.parse text = .ok ⟨"1&2", []⟩ ∧ Document.parseVersion text = .ok "1&2" ∧
      (∃ s, (openFile "a.ss" .standard "1&2" : StateM FileTree _).run files = (.ok s, files) ∧
        s.version = "1&2") ∧
      (savedVersion "a.ss" : StateM FileTree _).run files = (.ok "1&2", files) ∧
      ∃ e, (openFile "a.ss" .standard "0" : StateM FileTree _).run files = (.error e, files) := by
  obtain ⟨text, htext⟩ :
    ∃ text, text = "<!--<spreadsheet version='0'/>--> <?a?><spreadsheet version='1&amp;2'/>" :=
      ⟨_, rfl⟩
  have hparse : Document.parse text = .ok ⟨"1&2", []⟩ := by
    rw [htext]
    decide +kernel
  have hwrite (bytes : ByteArray) : FileTree.fresh.write "a.ss" bytes =
      .ok (FileTree.fresh.put ["a.ss", "work"] (.file bytes)) := by rfl
  obtain ⟨files, hfiles⟩ : ∃ files,
      (Files.writeText "a.ss" text : StateM FileTree _).run .fresh = (.ok (), files) :=
    ⟨_, by rw [FileTree.write_run, hwrite]⟩
  have hread := FileTree.lawful.readText_written hfiles
  obtain ⟨hversion, hfile⟩ := savedVersion_agrees
  obtain ⟨s, hs⟩ : ∃ s, ofText "a.ss" .standard "1&2" text = .ok s :=
    ⟨_, (ofText_of_parse hparse).trans (if_pos rfl)⟩
  have hopen := openFile_eq_ok_iff.mpr ⟨text, hread, hs⟩
  obtain ⟨hsaved, hsv⟩ := (hfile FileTree "a.ss" "1&2" .standard _ _).1 s hopen
  obtain ⟨e, he, -⟩ := (hfile FileTree "a.ss" "0" .standard _ _).2 _ hsaved (by decide)
  exact ⟨text, _, htext, hparse, hversion text _ hparse, ⟨s, hopen, hsv⟩, hsaved, e, he⟩

end Sheet

end Spreadsheet
