import Spreadsheet.Proofs.Document.RoundTrip
import Spreadsheet.Proofs.Files.Lawful
import Spreadsheet.Proofs.Files.Path
import Spreadsheet.Proofs.Sheet.Replay

namespace Spreadsheet.Sheet

lemma parseDocument_toMarkup (s : Sheet) : parseDocument s.toMarkup = .ok s.document := by
  rw [parseDocument, toMarkup, Document.parse, Document.text, String.toList_ofList,
    Document.read_render]
  rfl

section Reload

variable {rules : NameRules} {version : String} {s : Sheet}

lemma Reachable.ofRecords_records (h : Reachable rules version s) (hr : rules.Idempotent)
    (v : String) : ∃ u, ofRecords rules v s.records = .ok u ∧ SameDocument s u ∧ u.version = v ∧
      u.changed = false := by
  obtain ⟨rfl, -, hs⟩ := h.with_invariant (enterable_invariant rules version)
  exact hs.ofRecords_records hr v

lemma load_toMarkup {t u : Sheet} (hu : ofRecords t.rules t.version s.records = .ok u) :
    t.load s.toMarkup = (.ok (), u) := by
  have hreload : t.reload s.toMarkup = .ok u := by
    rw [reload, parseDocument_toMarkup]
    exact hu
  rw [load, hreload]
  rfl

lemma ofText_toMarkup (path : String) (rules : NameRules) (v : String) :
    ofText path rules v s.toMarkup = if s.version = v then ofRecords rules v s.records
      else .error (.versionMismatch path s.version v) := by
  rw [ofText, parseDocument_toMarkup]
  rfl

end Reload

section Files

variable {σ : Type} [Files (StateM σ)] {s s' : Sheet} {path q : String} {files files' : σ}

lemma save_ok (h : (s.save path : StateM σ _).run files = ((.ok q, s'), files')) :
    Text.isBlankText s.version = false ∧ q = Path.forSaving path ∧
      (Files.writeText q s.toMarkup : StateM σ _).run files = (.ok (), files') := by
  cases hblank : Text.isBlankText s.version with
  | true =>
    rw [save_of_blank s path files hblank] at h
    cases (Prod.mk.inj (Prod.mk.inj h).1).1
  | false =>
    rw [save_of_not_blank s path files hblank] at h
    obtain ⟨hresult, hfiles⟩ := Prod.mk.inj h
    cases hw : ((Files.writeText (Path.forSaving path) s.toMarkup : StateM σ _).run files).1 with
    | error e =>
      rw [hw] at hresult
      cases (Prod.mk.inj hresult).1
    | ok =>
      rw [hw] at hresult
      obtain rfl : Path.forSaving path = q := Except.ok.inj (Prod.mk.inj hresult).1
      exact ⟨rfl, rfl, Prod.ext hw hfiles⟩

lemma openFile_of_readText {text : String} (rules : NameRules) (v : String)
    (h : (Files.readText path : StateM σ _).run files = (.ok text, files')) :
    (openFile path rules v : StateM σ _).run files = (ofText path rules v text, files') := by
  have hrun : (openFile path rules v : StateM σ _).run files =
      ((((Files.readText path : StateM σ _).run files).1.mapError .file).bind (ofText path rules v),
        ((Files.readText path : StateM σ _).run files).2) := rfl
  rw [hrun, h]
  rfl

end Files

lemma save_fresh {s : Sheet} (hv : Text.isBlankText s.version = false) :
    (s.save "doc" : StateM FileTree _).run .fresh = ((.ok "doc.ss", { s with changed := false }),
      FileTree.fresh.put ["doc.ss", "work"] (.file s.toMarkup.toUTF8)) := by
  have hpath : Path.forSaving "doc" = "doc.ss" := by decide +kernel
  have hwrite (bytes : ByteArray) : FileTree.fresh.write "doc.ss" bytes =
      .ok (FileTree.fresh.put ["doc.ss", "work"] (.file bytes)) := by rfl
  rw [save_of_not_blank s "doc" FileTree.fresh hv, hpath]
  dsimp only
  rw [FileTree.write_run, hwrite]
  rfl

variable {rules : NameRules} {version : String} {s : Sheet}

theorem Reachable.reload_document (h : Reachable rules version s) (hr : rules.Idempotent) :
    (∀ t : Sheet, t.rules = rules → ∃ u, t.load s.toMarkup = (.ok (), u) ∧ SameDocument s u ∧
      u.version = t.version ∧ u.changed = false ∧
      (t.version = version → u.toMarkup = s.toMarkup)) ∧
    ∀ (σ : Type) [Files (StateM σ)], Files.Lawful σ →
      ∀ (path q : String) (s' : Sheet) (files files' : σ),
        (s.save path : StateM σ _).run files = ((.ok q, s'), files') →
        (∃ u, (openFile q rules version : StateM σ _).run files' = (.ok u, files') ∧
          SameDocument s u ∧ u.version = version ∧ u.changed = false) ∧
        (∀ v, v ≠ version → (openFile q rules v : StateM σ _).run files' =
          (.error (.versionMismatch q version v), files')) ∧
        ∀ w : Sheet, Text.isBlankText w.version = false →
          ((w.save q : StateM σ _).run files').1 = (.ok q, { w with changed := false }) := by
  obtain ⟨-, hversion, -⟩ := h.with_invariant (enterable_invariant rules version)
  refine ⟨fun t ht => ?_, fun σ _ hσ path q s' files files' hsave => ?_⟩
  · obtain ⟨u, hu, hdocument, huv, hchanged⟩ := h.ofRecords_records hr t.version
    rw [← ht] at hu
    refine ⟨u, load_toMarkup hu, hdocument, huv, hchanged, fun htv => ?_⟩
    exact hdocument.toMarkup_eq (huv.trans (htv.trans hversion.symm))
  · obtain ⟨hblank, hq, hwritten⟩ := save_ok hsave
    have hread := hσ.readText_written hwritten
    refine ⟨?_, fun v hv => ?_, fun w hw => ?_⟩
    · obtain ⟨u, hu, hu'⟩ := h.ofRecords_records hr version
      refine ⟨u, ?_, hu'⟩
      rw [openFile_of_readText rules version hread, ofText_toMarkup, if_pos hversion, hu]
    · have hne : s.version ≠ v := by
        rw [hversion]
        exact hv.symm
      rw [openFile_of_readText rules v hread, ofText_toMarkup, if_neg hne, hversion]
    · have hagain : Path.forSaving q = q := by rw [hq, Path.forSaving_forSaving]
      rw [save_of_not_blank w q files' hw, hagain]
      dsimp only
      rw [hσ.write_again hwritten, afterWrite]

theorem reload_document_in_tree :
    ∃ s s' files, s = ((empty Config.standard.nameRules "1.0").set "b1" "=a1").2 ∧
      Reachable Config.standard.nameRules "1.0" s ∧ Files.Lawful FileTree ∧
      (s.save "doc" : StateM FileTree _).run .fresh = ((.ok "doc.ss", s'), files) ∧
      (∃ u, (empty Config.standard.nameRules "2.0").load s.toMarkup = (.ok (), u) ∧
        SameDocument s u ∧ u.changed = false) ∧
      (openFile "doc.ss" Config.standard.nameRules "2.0" : StateM FileTree _).run files =
        (.error (.versionMismatch "doc.ss" "1.0" "2.0"), files) := by
  have h := (@Reachable.empty Config.standard.nameRules "1.0").set "b1" "=a1"
  have hblank : Text.isBlankText
      ((empty Config.standard.nameRules "1.0").set "b1" "=a1").2.version = false := by
    rw [(h.with_invariant (enterable_invariant _ _)).2.1]
    decide +kernel
  refine ⟨_, _, _, rfl, h, FileTree.lawful, save_fresh hblank, ?_⟩
  obtain ⟨hload, hfile⟩ := h.reload_document (Config.idempotent_nameRules .standard)
  obtain ⟨u, hu, hdocument, -, hchanged, -⟩ := hload (empty Config.standard.nameRules "2.0") rfl
  refine ⟨⟨u, hu, hdocument, hchanged⟩, ?_⟩
  exact (hfile FileTree FileTree.lawful "doc" _ _ _ _ (save_fresh hblank)).2.1 "2.0" (by decide)

end Spreadsheet.Sheet
