import Spreadsheet.Proofs.Sheet.Records

namespace Spreadsheet

open Relation

namespace Sheet

structure Enterable (rules : NameRules) (s : Sheet) : Prop extends Consistent s where
  entered {n : String} {c : Contents} (hc : s.cells.contents? n = some c) :
    (∃ name, rules.resolve name = some n) ∧ Entered rules c ∧ c.isBlank = false

lemma enterable_invariant (rules : NameRules) (version : String) :
    Invariant rules version (Enterable rules) where
  empty := ⟨.empty rules version, fun hc => by cases hc⟩
  replace {s} h {n c} hn hc := by
    refine ⟨h.toConsistent.replace n c, fun {m c'} hc' => ?_⟩
    rcases replace_cases h.graph n c with ⟨cycle, ho⟩ | ⟨order, ho⟩
    · rw [replace_of_error ho] at hc'
      exact h.entered hc'
    · rw [contents?_replace_of_ok ho, Cells.contents?_stored] at hc'
      split at hc'
      · rename_i hm
        split at hc'
        · cases hc'
        · rename_i hblank
          rw [hm, ← Option.some.inj hc']
          exact ⟨hn, hc, Bool.eq_false_iff.mpr hblank⟩
      · exact h.entered hc'
  tryFormula {s} h n f := by
    refine ⟨h.toConsistent.tryFormula n f, ?_⟩
    rw [tryFormula_snd]
    exact h.entered
  saved h := ⟨h.toConsistent.saved, h.entered⟩

def recordOf (entry : String × Cell) : Record := ⟨entry.1, entry.2.contents.inputText⟩

lemma filterMap_records {s : Sheet} {f : Record → Option String}
    (hf : ∀ entry ∈ s.cells, f (recordOf entry) = some entry.1) :
    s.records.filterMap f = s.cells.names := by
  have hrecords : s.records = s.cells.map recordOf := rfl
  rw [hrecords, List.filterMap_map, Cells.names, ← List.filterMap_eq_map]
  exact List.filterMap_congr hf

namespace Enterable

open Record

variable {s : Sheet} (hs : Enterable s.rules s) (hr : s.rules.Idempotent)
include hs hr

lemma gives_recordOf {entry : String × Cell} (he : entry ∈ s.cells) :
    (recordOf entry).Gives s.rules entry.1 entry.2.contents ∧ entry.2.contents.isBlank = false := by
  have hstored : s.cells.contents? entry.1 = some entry.2.contents := by
    rw [Cells.contents?, Cells.get?_of_mem hs.names he]
    rfl
  obtain ⟨⟨name, hname⟩, hc, hblank⟩ := hs.entered hstored
  exact ⟨⟨hr _ _ hname, Contents.ofInput_inputText hr hc⟩, hblank⟩

lemma distinct_records : Distinct s.rules s.records := by
  rw [Distinct, filterMap_records fun entry he => (hs.gives_recordOf hr he).1.1]
  exact hs.names

lemma gives_records_iff (n : String) (c : Contents) :
    (∃ record ∈ s.records, record.Gives s.rules n c ∧ c.isBlank = false) ↔
      s.cells.contents? n = some c := by
  constructor
  · rintro ⟨record, hrecord, hg, -⟩
    obtain ⟨entry, he, rfl⟩ := List.mem_map.mp hrecord
    obtain ⟨hentry, -⟩ := hs.gives_recordOf hr he
    obtain rfl := Option.some.inj (hentry.1.symm.trans hg.1)
    rw [Cells.contents?, Cells.get?_of_mem hs.names he, Option.map_some,
      Except.ok.inj (hentry.2.symm.trans hg.2)]
  · intro hc
    obtain ⟨cell, hcell, rfl⟩ := Option.map_eq_some_iff.mp hc
    have he := Cells.mem_of_get? hcell
    exact ⟨recordOf (n, cell), List.mem_map_of_mem he, hs.gives_recordOf hr he⟩

lemma loadable_records : Loadable s.rules s.records where
  names record hrecord := by
    obtain ⟨entry, he, rfl⟩ := List.mem_map.mp hrecord
    exact ⟨_, (hs.gives_recordOf hr he).1.1⟩
  contents record hrecord := by
    obtain ⟨entry, he, rfl⟩ := List.mem_map.mp hrecord
    exact ⟨_, (hs.gives_recordOf hr he).1.2⟩
  acyclic n hn := by
    have hpair (x t : String) (hx : Refers s.rules s.records x t) : s.graph.Pair x t := by
      obtain ⟨record, hrecord, f, hg, hx⟩ := hx
      have hstored := (hs.gives_records_iff hr t _).mp ⟨record, hrecord, hg, rfl⟩
      exact (hs.mirrors x t).mpr ⟨_, hstored, hx⟩
    exact hs.acyclic n (TransGen.mono hpair _ _ hn)

lemma ofRecords_records (v : String) : ∃ u, ofRecords s.rules v s.records = .ok u ∧
    SameDocument s u ∧ u.version = v ∧ u.changed = false := by
  obtain ⟨u, hu, h, hchanged⟩ :=
    ofRecords_of_loadable (hs.distinct_records hr) (hs.loadable_records hr) v
  have hnames : u.cells.names = s.cells.names := by
    rw [h.names]
    apply filterMap_records
    intro entry he
    obtain ⟨hg, hblank⟩ := hs.gives_recordOf hr he
    rw [hg.filledCell?_eq, hblank]
    rfl
  have hcontents : u.cells.contents? = s.cells.contents? := by
    funext n
    apply Option.ext
    intro c
    rw [h.contents, hs.gives_records_iff hr]
  exact ⟨u, hu, hs.sameDocument h.consistent h.rules hnames hcontents, h.version, hchanged⟩

end Enterable

end Sheet

end Spreadsheet
