import Spreadsheet.Proofs.Sheet.Replay
import Spreadsheet.Sheet.Store

/-! The history of a sheet. The map of its cells and the list of their names always have the same
names, and the list has them in the order in which their cells became non-empty, those that have
been so for longest first. -/

namespace Spreadsheet

open Sheet

namespace Store

structure Represents (store : Store) (cells : Cells) : Prop where
  listed : store.listed = cells.names
  get? (n : String) : store.cells[n]? = cells.get? n

lemma represents_empty : Represents .empty [] :=
  ⟨rfl, fun _ => Std.TreeMap.getElem?_emptyc⟩

namespace Represents

variable {store : Store} {cells : Cells} (h : store.Represents cells)
include h

lemma mem_iff (n : String) : n ∈ store.cells ↔ n ∈ cells.names := by
  rw [Std.TreeMap.mem_iff_isSome_getElem?, h.get?, Option.isSome_iff_ne_none, ne_eq,
    Cells.get?_eq_none, not_not]

lemma number?_eq : store.number? = cells.number? := by
  funext n
  rw [number?, h.get?, Cells.number?]

lemma remove (n : String) : (store.remove n).Represents (cells.erase n) := by
  rw [Store.remove]
  split
  · refine ⟨?_, fun m => ?_⟩
    · rw [Cells.names_erase, h.listed]
    · simp only [Std.TreeMap.getElem?_erase, Std.LawfulEqCmp.compare_eq_iff_eq, h.get?,
        Cells.get?_erase, eq_comm (a := n)]
  · rename_i hn
    rw [h.mem_iff] at hn
    have herase : cells.erase n = cells := by
      apply List.filter_eq_self.mpr
      intro entry he
      exact decide_eq_true fun hname => hn (hname ▸ List.mem_map_of_mem he)
    rw [herase]
    exact h

lemma insert (n : String) (cell : Cell) : (store.insert n cell).Represents (cells.put n cell) := by
  refine ⟨?_, fun m => ?_⟩
  · rw [Cells.names_put, Store.insert, h.listed]
    simp only [h.mem_iff]
  · simp only [Store.insert, Std.TreeMap.getElem?_insert, Std.LawfulEqCmp.compare_eq_iff_eq,
      h.get?, Cells.get?_put, eq_comm (a := n)]

lemma recalculate (n : String) : (store.recalculate n).Represents (cells.recalculate n) := by
  rw [Store.recalculate, h.get?]
  split
  · rename_i f v hf
    have hn : n ∈ store.cells := by
      rw [Std.TreeMap.mem_iff_isSome_getElem?, h.get?, hf]
      rfl
    have hput := h.insert n ⟨.formula f, Value.ofResult (f.evaluate store.number?)⟩
    rw [Store.insert, if_pos hn] at hput
    rw [Cells.recalculate_formula cells n hf, ← h.number?_eq]
    exact hput
  · rename_i hno
    rcases cells.recalculate_cases n with hsame | ⟨f, v, hf, -⟩
    · rw [hsame]
      exact h
    · exact (hno f v hf).elim

lemma recalculateAll (order : List String) :
    (order.foldl Store.recalculate store).Represents (order.foldl Cells.recalculate cells) := by
  induction order generalizing store cells with
  | nil => exact h
  | cons n order ih => exact ih (h.recalculate n)

lemma edit (n : String) (c : Contents) (order : List String) :
    (store.edit n c order).Represents (order.tail.foldl Cells.recalculate (cells.stored n c)) := by
  apply recalculateAll
  rw [Cells.stored, Sheet.store, h.number?_eq]
  dsimp only
  split
  · exact h.remove n
  · exact h.insert n _

end Represents

end Store

namespace Sheet

inductive History (rules : NameRules) (version : String) : Moment → List Moment → Prop
  | start : History rules version (.start rules version) []
  | set {m : Moment} {past : List Moment} (h : History rules version m past)
    (name input : String) : History rules version (m.set name input) (m :: past)
  | setFormula {m : Moment} {past : List Moment} (h : History rules version m past)
    (name : String) (f : Formula) : History rules version (m.setFormula name f) (m :: past)
  | check {m : Moment} {past : List Moment} (h : History rules version m past)
    (name input : String) :
    History rules version ⟨(m.sheet.check name input).2, m.store⟩ (m :: past)
  | load {m : Moment} {past : List Moment} (h : History rules version m past) (text : String) :
    History rules version (m.load past (.ok text)).1 (m.load past (.ok text)).2
  | loadFile {m : Moment} {past : List Moment} (h : History rules version m past) {σ : Type}
    [Files (StateM σ)] (path : String) (files : σ) :
    History rules version (m.load past ((readFile path : StateM σ _).run files).1).1
      (m.load past ((readFile path : StateM σ _).run files).1).2
  | save {m : Moment} {past : List Moment} (h : History rules version m past) {σ : Type}
    [Files (StateM σ)] (path : String) (files : σ) :
    History rules version ⟨((m.sheet.save path : StateM σ _).run files).1.2, m.store⟩ (m :: past)

end Sheet

namespace Moment

section Sheet

variable (m : Moment)

lemma sheet_replace (n : String) (c : Contents) :
    (m.replace n c).sheet = (m.sheet.replace n c).2 := by
  rw [replace]
  split <;> rename_i h <;> rw [h]

lemma sheet_set (name input : String) : (m.set name input).sheet = (m.sheet.set name input).2 := by
  rw [set, Sheet.set]
  split <;> rename_i h <;> rw [h]
  exact m.sheet_replace _ _

lemma sheet_setFormula (name : String) (f : Formula) :
    (m.setFormula name f).sheet = (m.sheet.setFormula name f).2 := by
  rw [setFormula, Sheet.setFormula]
  cases m.sheet.resolve name with
  | error e => rfl
  | ok n =>
    cases Formula.parseWithRules m.sheet.rules f.canonical with
    | error e => rfl
    | ok f' => exact m.sheet_replace n (.formula f')

lemma sheet_load (past : List Moment) (text : Except StorageError String) :
    (m.load past text).1.sheet = (m.sheet.keep (text.bind m.sheet.reload)).2 := by
  cases text with
  | error e => rfl
  | ok text =>
    change (m.load past (.ok text)).1.sheet = (m.sheet.keep (m.sheet.reload text)).2
    simp only [load, Except.bind, reload, bind]
    cases parseDocument text with
    | error e => rfl
    | ok document =>
      dsimp only
      cases ofRecords m.sheet.rules m.sheet.version document.records <;> rfl

lemma sheet_replay (past : List Moment) {records : List Record} {u : Sheet}
    (h : records.foldlM enter m.sheet = .ok u) : (m.replay past records).1.sheet = u := by
  induction records generalizing m past with
  | nil => exact Except.ok.inj h
  | cons record records ih =>
    obtain ⟨t, ht, hu⟩ := List.foldlM_cons_eq_ok_iff.mp h
    rw [← enter_ok _ ht, ← sheet_set] at hu
    exact ih _ _ hu

end Sheet

section Filled

variable {m m' : Moment} {past : List Moment}

lemma filledFor_cons (n : String) (m : Moment) (past : List Moment) :
    filledFor n (m :: past) = if n ∈ m.store.cells then filledFor n past + 1 else 0 := by
  rw [filledFor, List.takeWhile_cons, filledFor]
  by_cases hn : n ∈ m.store.cells
  · rw [if_pos (Std.TreeMap.contains_iff_mem.mpr hn), if_pos hn, List.length_cons]
  · rw [if_neg (fun h => hn (Std.TreeMap.contains_iff_mem.mp h)), if_neg hn, List.length_nil]

structure Ordered (m : Moment) (past : List Moment) : Prop where
  nodup : m.store.listed.Nodup
  mem_iff (n : String) : n ∈ m.store.listed ↔ n ∈ m.store.cells
  order : m.store.listed.Pairwise fun a b => filledFor b (m :: past) < filledFor a (m :: past)

lemma names_stored_cases (cells : Cells) (n : String) (c : Contents) :
    (cells.stored n c).names.Sublist cells.names ∨
      ∃ k, k ∉ cells.names ∧ (cells.stored n c).names = cells.names ++ [k] := by
  rw [Cells.stored, Sheet.store]
  split
  · rw [Cells.names_erase]
    exact Or.inl List.filter_sublist
  · rw [Cells.names_put]
    split
    · exact Or.inl (List.Sublist.refl _)
    · rename_i hn
      exact Or.inr ⟨n, hn, rfl⟩

structure Kept (m : Moment) (past : List Moment) : Prop where
  consistent : m.sheet.Consistent
  represents : m.store.Represents m.sheet.cells
  order : m.store.listed.Pairwise fun a b => filledFor b (m :: past) < filledFor a (m :: past)

namespace Kept

lemma start (rules : NameRules) (version : String) (past : List Moment) :
    Kept (.start rules version) past :=
  ⟨.empty rules version, Store.represents_empty, List.Pairwise.nil⟩

variable (h : Kept m past)
include h

lemma ordered : Ordered m past where
  nodup := h.represents.listed ▸ h.consistent.names
  mem_iff n := by rw [h.represents.listed, h.represents.mem_iff]
  order := h.order

lemma next (hm' : m'.sheet.Consistent) (hr : m'.store.Represents m'.sheet.cells)
    (hl : m'.store.listed.Sublist m.store.listed ∨
      ∃ n, n ∉ m.store.listed ∧ m'.store.listed = m.store.listed ++ [n]) :
    Kept m' (m :: past) := by
  have hfilled {a : String} (ha : a ∈ m'.store.listed) :
      filledFor a (m' :: m :: past) = filledFor a (m :: past) + 1 := by
    rw [filledFor_cons, if_pos]
    rwa [hr.listed, ← hr.mem_iff] at ha
  refine ⟨hm', hr, ?_⟩
  rcases hl with hl | ⟨n, hn, hl⟩
  · refine (h.order.sublist hl).imp_of_mem fun ha hb hab => ?_
    rw [hfilled ha, hfilled hb]
    exact Nat.succ_lt_succ hab
  · have hlast : n ∈ m'.store.listed := hl ▸ List.mem_append_right _ (List.mem_singleton_self n)
    have hold {a : String} (ha : a ∈ m.store.listed) : a ∈ m'.store.listed :=
      hl ▸ List.mem_append_left [n] ha
    rw [hl]
    refine List.pairwise_append.mpr ⟨?_, List.pairwise_singleton _ n, fun a ha b hb => ?_⟩
    · refine h.order.imp_of_mem fun ha hb hab => ?_
      rw [hfilled (hold ha), hfilled (hold hb)]
      exact Nat.succ_lt_succ hab
    · obtain rfl := List.mem_singleton.mp hb
      rw [h.ordered.mem_iff] at hn ha
      rw [hfilled hlast, hfilled (hold ((h.ordered.mem_iff a).mpr ha)), filledFor_cons, if_neg hn,
        filledFor_cons, if_pos ha]
      exact Nat.succ_lt_succ (Nat.succ_pos _)

lemma replace (n : String) (c : Contents) : Kept (m.replace n c) (m :: past) := by
  have hs := h.consistent.replace n c
  rcases replace_cases h.consistent.graph n c with ⟨cycle, ho⟩ | ⟨rest, ho⟩
  · rw [replace_of_error ho] at hs
    rw [Moment.replace, replace_of_error ho]
    exact h.next hs h.represents (Or.inl (List.Sublist.refl _))
  · rw [replace_of_ok ho] at hs
    rw [Moment.replace, replace_of_ok ho]
    have hr := h.represents.edit n c (n :: rest)
    refine h.next hs hr ?_
    rw [hr.listed, h.represents.listed, List.tail_cons, Cells.names_recalculateAll]
    exact names_stored_cases m.sheet.cells n c

lemma set (name input : String) : Kept (m.set name input) (m :: past) := by
  rw [Moment.set]
  split
  · exact h.replace _ _
  · exact h.next h.consistent h.represents (Or.inl (List.Sublist.refl _))

lemma setFormula (name : String) (f : Formula) : Kept (m.setFormula name f) (m :: past) := by
  rw [Moment.setFormula]
  split
  · exact h.replace _ _
  · exact h.next h.consistent h.represents (Or.inl (List.Sublist.refl _))

lemma replay (records : List Record) :
    Kept (m.replay past records).1 (m.replay past records).2 := by
  induction records generalizing m past with
  | nil => exact h
  | cons record records ih => exact ih (h.set record.name record.contents)

lemma with_sheet {s : Sheet} (hs : s.Consistent) (hcells : s.cells = m.sheet.cells) :
    Kept ⟨s, m.store⟩ (m :: past) :=
  h.next hs (hcells ▸ h.represents) (Or.inl (List.Sublist.refl _))

lemma load (text : Except StorageError String) :
    Kept (m.load past text).1 (m.load past text).2 := by
  rw [Moment.load]
  split
  · exact h
  · rename_i document _
    split
    · exact h
    · rename_i s hs
      have hlast := (Kept.start m.sheet.rules m.sheet.version (m :: past)).replay document.records
      obtain ⟨u, hu, rfl⟩ := ofRecords_ok hs
      have hsheet := Moment.sheet_replay (.start m.sheet.rules m.sheet.version) (m :: past) hu
      rw [← hsheet]
      exact hlast.with_sheet hlast.consistent.saved rfl

end Kept

end Filled

end Moment

end Spreadsheet
