import Spreadsheet.Proofs.Sheet.Contents
import Spreadsheet.Proofs.Sheet.Recomputed

/-! Entering the records of a document. No cell has two of them, so each is entered into a sheet
that has only the references of the records before it, and is rejected only if it closes a cycle
with them. -/

namespace Spreadsheet

open Relation

namespace Record

def Gives (rules : NameRules) (record : Record) (n : String) (c : Contents) : Prop :=
  rules.resolve record.name = some n ∧ Contents.ofInput rules record.contents = .ok c

def filledCell? (rules : NameRules) (record : Record) : Option String :=
  if Text.isBlankText record.contents then none else rules.resolve record.name

def Distinct (rules : NameRules) (records : List Record) : Prop :=
  (records.filterMap fun record => rules.resolve record.name).Nodup

def Refers (rules : NameRules) (records : List Record) (x y : String) : Prop :=
  ∃ record ∈ records, ∃ f, record.Gives rules y (.formula f) ∧ x ∈ f.variableNames

structure Loadable (rules : NameRules) (records : List Record) : Prop where
  names : ∀ record ∈ records, ∃ n, rules.resolve record.name = some n
  contents : ∀ record ∈ records, ∃ c, Contents.ofInput rules record.contents = .ok c
  acyclic : ∀ n, ¬ TransGen (Refers rules records) n n

variable {rules : NameRules} {record : Record} {done records : List Record} {n x t : String}
  {c : Contents}

lemma Loadable.gives (h : Loadable rules records) (hr : record ∈ records) :
    ∃ n c, record.Gives rules n c := by
  obtain ⟨n, hn⟩ := h.names record hr
  obtain ⟨c, hc⟩ := h.contents record hr
  exact ⟨n, c, hn, hc⟩

lemma Gives.filledCell?_eq (h : record.Gives rules n c) :
    record.filledCell? rules = if c.isBlank then none else some n := by
  rw [filledCell?, isBlank_of_ofInput h.2, h.1]

lemma Distinct.fresh (h : Distinct rules (done ++ record :: records))
    (hn : rules.resolve record.name = some n) :
    ∀ r ∈ done, rules.resolve r.name ≠ some n := by
  intro r hr hrn
  have hlast : n ∈ (record :: records).filterMap fun record => rules.resolve record.name :=
    List.mem_filterMap.mpr ⟨record, List.mem_cons_self, hn⟩
  rw [Distinct, List.filterMap_append] at h
  exact List.disjoint_of_nodup_append h (List.mem_filterMap.mpr ⟨r, hr, hrn⟩) hlast

lemma refers_append (records : List Record) : Refers rules done x t →
    Refers rules (done ++ records) x t := by
  rintro ⟨record, hr, f, hf⟩
  exact ⟨record, List.mem_append_left _ hr, f, hf⟩

section Perm

variable {records' : List Record} (hp : records'.Perm records)
include hp

lemma Distinct.perm (h : Distinct rules records) : Distinct rules records' :=
  (hp.filterMap _).nodup_iff.mpr h

lemma refers_perm : Refers rules records' = Refers rules records := by
  funext x t
  simp only [Refers, hp.mem_iff]

lemma Loadable.perm (h : Loadable rules records) : Loadable rules records' where
  names record hr := h.names record (hp.mem_iff.mp hr)
  contents record hr := h.contents record (hp.mem_iff.mp hr)
  acyclic n := by
    rw [refers_perm hp]
    exact h.acyclic n

end Perm

end Record

namespace Sheet

open Record

variable {rules : NameRules} {version : String} {record : Record} {done records : List Record}
  {u u' : Sheet} {n x t : String} {c : Contents}

structure Holding (rules : NameRules) (version : String) (records : List Record) (u : Sheet) :
    Prop where
  consistent : u.Consistent
  names : u.cells.names = records.filterMap (filledCell? rules)
  contents (n : String) (c : Contents) : u.cells.contents? n = some c ↔
    ∃ record ∈ records, record.Gives rules n c ∧ c.isBlank = false
  rules : u.rules = rules
  version : u.version = version

lemma holding_empty (rules : NameRules) (version : String) :
    Holding rules version [] (.empty rules version) where
  consistent := .empty rules version
  rules := rfl
  version := rfl
  names := rfl
  contents n c := by
    constructor
    · intro h
      cases h
    · rintro ⟨record, hr, -⟩
      exact (List.not_mem_nil hr).elim

lemma enter_of_gives (hr : u.rules = rules) (hg : record.Gives rules n c) :
    u.enter record = match (u.replace n c).1 with
      | .ok _ => .ok (u.replace n c).2
      | .error e => .error (.record record.name e) := by
  subst hr
  rw [enter, set_of_ok hg.1 hg.2]
  rcases u.replace n c with ⟨result, u'⟩
  cases result <;> rfl

lemma gives_of_enter (hr : u.rules = rules) (h : u.enter record = .ok u') :
    ∃ n c, record.Gives rules n c := by
  subst hr
  rcases u.set_cases record.name record.contents with ⟨e, he⟩ | ⟨n, c, hn, hc, -⟩
  · rw [enter, he] at h
    cases h
  · exact ⟨n, c, hn, hc⟩

namespace Holding

variable (h : Holding rules version done u)
include h

lemma refers_iff : u.cells.Refers x t ↔ Record.Refers rules done x t := by
  constructor
  · rintro ⟨c, hc, hx⟩
    obtain ⟨record, hr, hg, -⟩ := (h.contents t c).mp hc
    cases c with
    | text s => exact (List.not_mem_nil hx).elim
    | number y => exact (List.not_mem_nil hx).elim
    | formula f => exact ⟨record, hr, f, hg, hx⟩
  · rintro ⟨record, hr, f, hg, hx⟩
    exact ⟨.formula f, (h.contents t _).mpr ⟨record, hr, hg, rfl⟩, hx⟩

lemma pair_eq : u.graph.Pair = Record.Refers rules done := by
  funext x t
  exact propext ((h.consistent.mirrors x t).trans h.refers_iff)

lemma contents?_of_fresh (hfresh : ∀ r ∈ done, rules.resolve r.name ≠ some n) :
    u.cells.contents? n = none := by
  cases hc : u.cells.contents? n with
  | none => rfl
  | some c =>
    obtain ⟨r, hr, hg, -⟩ := (h.contents n c).mp hc
    exact (hfresh r hr hg.1).elim

section Enter

variable (hg : record.Gives rules n c) (hfresh : ∀ r ∈ done, rules.resolve r.name ≠ some n)
include hg hfresh

lemma names_stored : (u.cells.stored n c).names =
    (done ++ [record]).filterMap (filledCell? rules) := by
  have hn : n ∉ u.cells.names := by
    rw [← Cells.get?_eq_none]
    exact Option.map_eq_none_iff.mp (h.contents?_of_fresh hfresh)
  have hlast : [record].filterMap (filledCell? rules) = if c.isBlank then [] else [n] := by
    rw [List.filterMap_cons, hg.filledCell?_eq]
    cases c.isBlank <;> rfl
  rw [List.filterMap_append, ← h.names, hlast, Cells.stored, store]
  cases hblank : c.isBlank with
  | true =>
    have herase : u.cells.names.filter (· ≠ n) = u.cells.names := by
      apply List.filter_eq_self.mpr
      intro m hm
      exact decide_eq_true (ne_of_mem_of_not_mem hm hn)
    rw [if_pos rfl, Cells.names_erase, herase]
    exact (List.append_nil _).symm
  | false =>
    rw [if_neg Bool.false_ne_true, Cells.names_put, if_neg hn]
    rfl

lemma contents?_stored_iff (m : String) (d : Contents) :
    (u.cells.stored n c).contents? m = some d ↔
      ∃ r ∈ done ++ [record], r.Gives rules m d ∧ d.isBlank = false := by
  have hlast : record.Gives rules m d ↔ m = n ∧ d = c := by
    constructor
    · rintro ⟨hm, hd⟩
      exact ⟨Option.some.inj (hm.symm.trans hg.1), Except.ok.inj (hd.symm.trans hg.2)⟩
    · rintro ⟨rfl, rfl⟩
      exact hg
  simp only [List.mem_append, List.mem_singleton, or_and_right, exists_or, exists_eq_left, hlast]
  rw [← h.contents, Cells.contents?_stored]
  by_cases hm : m = n
  · subst hm
    rw [if_pos rfl, h.contents?_of_fresh hfresh]
    cases hblank : c.isBlank with
    | true =>
      simp only [true_and, reduceCtorEq, if_true, false_or, false_iff]
      rintro ⟨rfl, hd⟩
      cases hblank.symm.trans hd
    | false =>
      simp only [true_and, reduceCtorEq, Bool.false_eq_true, if_false, false_or, Option.some.injEq]
      exact ⟨fun hd => ⟨hd.symm, hd ▸ hblank⟩, fun hd => hd.1.symm⟩
  · rw [if_neg hm]
    simp [hm]

lemma replace {order : List String} (ho : (rewire u.graph n c.references).2 = .ok (n :: order)) :
    Holding rules version (done ++ [record]) (u.replace n c).2 := by
  obtain ⟨hrules, hversion⟩ := u.rules_replace n c
  refine ⟨h.consistent.replace n c, ?_, ?_, hrules.trans h.rules, hversion.trans h.version⟩
  · rw [names_replace_of_ok ho, h.names_stored hg hfresh]
  · intro m d
    rw [contents?_replace_of_ok ho]
    exact h.contents?_stored_iff hg hfresh m d

lemma enter_cases : (∃ u', u.enter record = .ok u' ∧
      Holding rules version (done ++ [record]) u') ∨
    (∃ e, u.enter record = .error (.record record.name e)) ∧
      ∃ x ∈ c.references, ReflTransGen u.graph.Pair n x := by
  rw [enter_of_gives h.rules hg]
  rcases replace_cases h.consistent.graph n c with hcycle | ⟨order, ho⟩
  · refine Or.inr ⟨?_, ?_⟩
    · obtain ⟨cycle, ho⟩ := hcycle
      rw [replace_of_error ho]
      exact ⟨_, rfl⟩
    · exact (rewire_error_iff h.consistent.graph n _ h.consistent.acyclic).mp hcycle
  · refine Or.inl ⟨(u.replace n c).2, ?_, h.replace hg hfresh ho⟩
    rw [replace_of_ok ho]

end Enter

lemma enter_all (hd : Distinct rules (done ++ records))
    (hl : Loadable rules (done ++ records)) : ∃ u', records.foldlM Sheet.enter u = .ok u' ∧
      Holding rules version (done ++ records) u' := by
  induction records generalizing done u with
  | nil => exact ⟨u, rfl, (List.append_nil done).symm ▸ h⟩
  | cons record records ih =>
    have hmem : record ∈ done ++ record :: records := by simp
    obtain ⟨n, c, hg⟩ := hl.gives hmem
    have hsplit := List.append_cons done record records
    rcases h.enter_cases hg (hd.fresh hg.1) with ⟨u', hu', h'⟩ | ⟨-, x, hx, hnx⟩
    · obtain ⟨u'', hu'', h''⟩ := ih h' (hsplit ▸ hd) (hsplit ▸ hl)
      exact ⟨u'', List.foldlM_cons_eq_ok_iff.mpr ⟨u', hu', hu''⟩, hsplit ▸ h''⟩
    · have hback : Record.Refers rules (done ++ record :: records) x n := by
        cases c with
        | text s => exact (List.not_mem_nil hx).elim
        | number y => exact (List.not_mem_nil hx).elim
        | formula f => exact ⟨record, hmem, f, hg, hx⟩
      rw [h.pair_eq] at hnx
      have hpath := ReflTransGen.mono (fun _ _ => refers_append (record :: records)) _ _ hnx
      exact (hl.acyclic n (.tail' hpath hback)).elim

lemma of_enter_all (hd : Distinct rules (done ++ records))
    (hu : records.foldlM Sheet.enter u = .ok u') :
    (∀ record ∈ records, ∃ n c, record.Gives rules n c) ∧
      Holding rules version (done ++ records) u' := by
  induction records generalizing done u with
  | nil =>
    obtain rfl := Except.ok.inj hu
    exact ⟨fun _ hr => (List.not_mem_nil hr).elim, (List.append_nil done).symm ▸ h⟩
  | cons record records ih =>
    obtain ⟨next, hrecord, hu⟩ := List.foldlM_cons_eq_ok_iff.mp hu
    obtain ⟨n, c, hg⟩ := gives_of_enter h.rules hrecord
    have hsplit := List.append_cons done record records
    rcases h.enter_cases hg (hd.fresh hg.1) with ⟨u'', hu'', h''⟩ | ⟨⟨e, he⟩, -⟩
    · obtain rfl := Except.ok.inj (hu''.symm.trans hrecord)
      obtain ⟨hrest, hend⟩ := ih h'' (hsplit ▸ hd) hu
      exact ⟨List.forall_mem_cons.mpr ⟨⟨n, c, hg⟩, hrest⟩, hsplit ▸ hend⟩
    · cases he.symm.trans hrecord

lemma loadable (hg : ∀ record ∈ done, ∃ n c, record.Gives rules n c) : Loadable rules done where
  names record hr := by
    obtain ⟨n, -, hn, -⟩ := hg record hr
    exact ⟨n, hn⟩
  contents record hr := by
    obtain ⟨-, c, -, hc⟩ := hg record hr
    exact ⟨c, hc⟩
  acyclic n hn := by
    rw [← h.pair_eq] at hn
    exact h.consistent.acyclic n hn

lemma saved : Holding rules version done { u with changed := false } :=
  ⟨h.consistent.saved, h.names, h.contents, h.rules, h.version⟩

end Holding

lemma ofRecords_of_loadable (hd : Distinct rules records) (hl : Loadable rules records)
    (version : String) : ∃ u, ofRecords rules version records = .ok u ∧
      Holding rules version records u ∧ u.changed = false := by
  obtain ⟨u, hu, h⟩ := (holding_empty rules version).enter_all hd hl
  rw [List.nil_append] at h
  refine ⟨{ u with changed := false }, ?_, h.saved, rfl⟩
  rw [ofRecords, hu]
  rfl

lemma holding_of_ofRecords (hd : Distinct rules records)
    (h : ofRecords rules version records = .ok u) :
    Loadable rules records ∧ Holding rules version records u ∧ u.changed = false := by
  obtain ⟨u, hu, rfl⟩ := ofRecords_ok h
  obtain ⟨hg, h⟩ := (holding_empty rules version).of_enter_all hd hu
  exact ⟨h.loadable hg, h.saved, rfl⟩

lemma enter_error {e : StorageError} (h : u.enter record = .error e) :
    ∃ cause, e = .record record.name cause := by
  unfold enter at h
  split at h
  · cases h
  · rename_i cause _ _
    exact ⟨cause, (Except.error.inj h).symm⟩

lemma enter_all_error {e : StorageError} (h : records.foldlM enter u = .error e) :
    ∃ record ∈ records, ∃ cause, e = .record record.name cause := by
  induction records generalizing u with
  | nil => cases h
  | cons record records ih =>
    rw [List.foldlM_cons] at h
    cases hu : u.enter record with
    | error e' =>
      rw [hu] at h
      obtain rfl := Except.error.inj h
      exact ⟨record, List.mem_cons_self, enter_error hu⟩
    | ok u' =>
      rw [hu] at h
      obtain ⟨r, hr, hcause⟩ := ih h
      exact ⟨r, List.mem_cons_of_mem _ hr, hcause⟩

lemma ofRecords_error {e : StorageError} (h : ofRecords rules version records = .error e) :
    ∃ record ∈ records, ∃ cause, e = .record record.name cause := by
  rw [ofRecords] at h
  cases hu : records.foldlM enter (empty rules version) with
  | error e' =>
    rw [hu] at h
    obtain rfl := Except.error.inj h
    exact enter_all_error hu
  | ok u =>
    rw [hu] at h
    cases h

end Sheet

end Spreadsheet
