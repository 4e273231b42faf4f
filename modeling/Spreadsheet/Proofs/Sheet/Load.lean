import Spreadsheet.Proofs.Document.RoundTrip
import Spreadsheet.Proofs.Sheet.Records

namespace Spreadsheet.Sheet

open Record

lemma Holding.sameCells {rules : NameRules} {version : String} {records records' : List Record}
    {u u' : Sheet} (h : Holding rules version records u) (h' : Holding rules version records' u')
    (hp : records'.Perm records) : SameCells u u' := by
  apply h.consistent.sameCells h'.consistent
  funext n
  apply Option.ext
  intro c
  rw [h.contents, h'.contents]
  simp only [hp.mem_iff]

lemma load_of_parse (s : Sheet) {text : String} {document : Document}
    (hp : Document.parse text = .ok document) :
    s.load text = s.keep (ofRecords s.rules s.version document.records) := by
  rw [load, reload, parseDocument, hp]
  rfl

lemma keep_eq_ok_iff {s u : Sheet} {r : Except StorageError Sheet} :
    s.keep r = (.ok (), u) ↔ r = .ok u := by
  cases r <;> simp [keep]

lemma keep_eq_error_iff {s u : Sheet} {r : Except StorageError Sheet} {e : StorageError} :
    s.keep r = (.error e, u) ↔ r = .error e ∧ u = s := by
  cases r <;> simp [keep, eq_comm]

theorem load_iff_loadable (s : Sheet) {text : String} {document : Document}
    (hp : Document.parse text = .ok document) (hd : Distinct s.rules document.records) :
    ((∃ u, s.load text = (.ok (), u)) ↔ Loadable s.rules document.records) ∧
    (∀ u, s.load text = (.ok (), u) →
      u.rules = s.rules ∧ u.version = s.version ∧ u.changed = false ∧
      u.names = document.records.filterMap (filledCell? s.rules) ∧
      (∀ n c, u.storedContents n = some c ↔
        ∃ record ∈ document.records, record.Gives s.rules n c ∧ c.isBlank = false) ∧
      ∀ (text' : String) (document' : Document), Document.parse text' = .ok document' →
        document'.records.Perm document.records →
        ∃ u', s.load text' = (.ok (), u') ∧ SameCells u u') ∧
    ∀ e u, s.load text = (.error e, u) →
      u = s ∧ ∃ record ∈ document.records, ∃ cause, e = .record record.name cause := by
  rw [s.load_of_parse hp]
  simp only [keep_eq_ok_iff, keep_eq_error_iff]
  refine ⟨⟨?_, ?_⟩, ?_, ?_⟩
  · rintro ⟨u, hu⟩
    exact (holding_of_ofRecords hd hu).1
  · intro hl
    obtain ⟨u, hu, -⟩ := ofRecords_of_loadable hd hl s.version
    exact ⟨u, hu⟩
  · intro u hu
    obtain ⟨hl, h, hchanged⟩ := holding_of_ofRecords hd hu
    refine ⟨h.rules, h.version, hchanged, h.names, h.contents, ?_⟩
    intro text' document' hp' hperm
    obtain ⟨u', hu', h', -⟩ := ofRecords_of_loadable (hd.perm hperm) (hl.perm hperm) s.version
    refine ⟨u', ?_, h.sameCells h' hperm⟩
    rw [s.load_of_parse hp', keep_eq_ok_iff, hu']
  · rintro e u ⟨he, rfl⟩
    exact ⟨rfl, ofRecords_error he⟩

theorem load_iff_loadable_of_forward_reference :
    ∃ s u document, s = ((empty .standard "2.0").set "c1" "old").2 ∧
      document = ⟨"1.0", [⟨"b1", "=a1"⟩, ⟨"a1", "one"⟩, ⟨"d1", " "⟩]⟩ ∧
      Document.parse document.text = .ok document ∧ Distinct s.rules document.records ∧
      Loadable s.rules document.records ∧ s.load document.text = (.ok (), u) ∧
      u.names = ["B1", "A1"] ∧ u.version = "2.0" ∧
      ∃ u', s.load (Document.text ⟨"1.0", document.records.reverse⟩) = (.ok (), u') ∧
        SameCells u u' := by
  let records : List Record := [⟨"b1", "=a1"⟩, ⟨"a1", "one"⟩, ⟨"d1", " "⟩]
  let s := ((empty .standard "2.0").set "c1" "old").2
  have hparse (records : List Record) : Document.parse (Document.text ⟨"1.0", records⟩) =
      .ok ⟨"1.0", records⟩ := by
    rw [Document.parse, Document.text, String.toList_ofList, Document.read_render]
  obtain ⟨hrules, hversion⟩ : s.rules = .standard ∧ s.version = "2.0" := by
    have h := (@Reachable.empty .standard "2.0").set "c1" "old"
    obtain ⟨hrules, hversion, -⟩ := h.with_invariant (consistent_invariant _ _)
    exact ⟨hrules, hversion⟩
  have hd : Distinct s.rules records := by
    rw [hrules, Distinct]
    decide +kernel
  have hnames : (ofRecords .standard "2.0" records).map names = .ok ["B1", "A1"] := by cbv
  cases hu : ofRecords .standard "2.0" records with
  | error e =>
    rw [hu] at hnames
    cases hnames
  | ok u =>
    rw [hu] at hnames
    have hload : s.load (Document.text ⟨"1.0", records⟩) = (.ok (), u) := by
      rw [s.load_of_parse (hparse records), keep_eq_ok_iff, hrules, hversion, hu]
    obtain ⟨hiff, hok, -⟩ := load_iff_loadable s (hparse records) hd
    obtain ⟨-, huv, -, -, -, hperm⟩ := hok u hload
    exact ⟨s, u, ⟨"1.0", records⟩, rfl, rfl, hparse records, hd, hiff.mp ⟨u, hload⟩, hload,
      Except.ok.inj hnames, huv.trans hversion,
      hperm _ _ (hparse records.reverse) records.reverse_perm⟩

end Spreadsheet.Sheet
