import Spreadsheet.Proofs.Formula.Lookup
import Spreadsheet.Proofs.Graph.Order
import Spreadsheet.Sheet.Edit
import Spreadsheet.Sheet.Meaning

namespace Spreadsheet

lemma Meaning.value_eq (values : String → Option Value) (c : Contents) :
    value values c = c.value (number? values) := by
  cases c with
  | text s => rfl
  | number x => rfl
  | formula f =>
    rw [value, Contents.value]
    cases f.evaluate (number? values) <;> rfl

namespace Cells

def contents? (cells : Cells) (name : String) : Option Contents :=
  (cells.get? name).map Cell.contents

def value? (cells : Cells) (name : String) : Option Value := (cells.get? name).map Cell.value

def Refers (cells : Cells) (x t : String) : Prop :=
  ∃ c, cells.contents? t = some c ∧ x ∈ c.references

section Access

variable (cells : Cells) (name n : String) (cell : Cell)

lemma get?_cons : get? ((name, cell) :: cells) n =
    if n = name then some cell else cells.get? n := by
  by_cases h : n = name
  · subst h
    simp [get?, List.lookup]
  · simp [get?, List.lookup, beq_false_of_ne h, h]

lemma get?_put : (cells.put name cell).get? n = if n = name then some cell else cells.get? n := by
  induction cells with
  | nil => exact get?_cons [] name n cell
  | cons entry cells ih =>
    obtain ⟨m, c⟩ := entry
    rw [put]
    by_cases hm : m = name
    · subst hm
      rw [if_pos rfl, get?_cons, get?_cons]
      split <;> rfl
    · rw [if_neg hm, get?_cons, get?_cons, ih]
      by_cases h : n = m
      · subst h
        rw [if_pos rfl, if_pos rfl, if_neg hm]
      · rw [if_neg h, if_neg h]

lemma get?_erase : (cells.erase name).get? n = if n = name then none else cells.get? n := by
  induction cells with
  | nil => simp [erase, get?]
  | cons entry cells ih =>
    obtain ⟨m, c⟩ := entry
    rw [erase] at ih ⊢
    by_cases hm : m = name
    · subst hm
      rw [List.filter_cons_of_neg (by simp), ih, get?_cons]
      split <;> rfl
    · rw [List.filter_cons_of_pos (by simpa using hm), get?_cons, get?_cons, ih]
      by_cases h : n = m
      · subst h
        rw [if_pos rfl, if_pos rfl, if_neg hm]
      · rw [if_neg h, if_neg h]

lemma get?_eq_none : cells.get? n = none ↔ n ∉ cells.names := by
  induction cells with
  | nil => simp [get?, names]
  | cons entry cells ih =>
    obtain ⟨m, c⟩ := entry
    rw [get?_cons, names, List.map_cons, List.mem_cons, ← names]
    by_cases h : n = m
    · simp [h]
    · simp [h, ih]

lemma names_put : (cells.put name cell).names =
    if name ∈ cells.names then cells.names else cells.names ++ [name] := by
  induction cells with
  | nil => rfl
  | cons entry cells ih =>
    obtain ⟨m, c⟩ := entry
    rw [put]
    by_cases hm : m = name
    · subst hm
      simp [names]
    · rw [if_neg hm]
      simp only [names, List.map_cons, List.mem_cons, Ne.symm hm, false_or] at ih ⊢
      rw [ih]
      by_cases h : name ∈ cells.map Prod.fst <;> simp [h]

lemma names_erase : (cells.erase name).names = cells.names.filter (· ≠ name) := by
  rw [names, erase, names, List.filter_map]
  rfl

end Access

lemma number?_eq (cells : Cells) : cells.number? = Meaning.number? cells.value? := by
  funext n
  rw [number?, Meaning.number?, value?]
  cases cells.get? n with
  | none => rfl
  | some cell =>
    obtain ⟨c, v⟩ := cell
    cases v <;> rfl

section Recalculate

variable (cells : Cells) (name : String)

lemma recalculate_formula {f : Formula} {v : Value} (h : cells.get? name = some ⟨.formula f, v⟩) :
    cells.recalculate name =
      cells.put name ⟨.formula f, (Contents.formula f).value cells.number?⟩ := by
  simp only [recalculate, h, Contents.value]

lemma recalculate_cases : cells.recalculate name = cells ∨
    ∃ f v, cells.get? name = some ⟨.formula f, v⟩ ∧ cells.recalculate name =
      cells.put name ⟨.formula f, (Contents.formula f).value cells.number?⟩ := by
  rw [recalculate]
  split
  · rename_i f v h
    exact Or.inr ⟨f, v, h, rfl⟩
  · exact Or.inl rfl

lemma contents?_recalculate : (cells.recalculate name).contents? = cells.contents? := by
  rcases recalculate_cases cells name with h | ⟨f, v, hf, h⟩
  · rw [h]
  · funext n
    rw [h, contents?, get?_put]
    split
    · rename_i hn
      rw [hn, contents?, hf]
      rfl
    · rfl

lemma names_recalculate : (cells.recalculate name).names = cells.names := by
  rcases recalculate_cases cells name with h | ⟨f, v, hf, h⟩
  · rw [h]
  · rw [h, names_put, if_pos]
    by_contra hn
    rw [← get?_eq_none, hf] at hn
    cases hn

lemma get?_recalculate {n : String} (hn : n ≠ name) :
    (cells.recalculate name).get? n = cells.get? n := by
  rcases recalculate_cases cells name with h | ⟨f, v, -, h⟩
  · rw [h]
  · rw [h, get?_put, if_neg hn]

variable (order : List String)

lemma contents?_recalculateAll : (order.foldl recalculate cells).contents? = cells.contents? := by
  induction order generalizing cells with
  | nil => rfl
  | cons name order ih => rw [List.foldl_cons, ih, contents?_recalculate]

lemma names_recalculateAll : (order.foldl recalculate cells).names = cells.names := by
  induction order generalizing cells with
  | nil => rfl
  | cons name order ih => rw [List.foldl_cons, ih, names_recalculate]

lemma get?_recalculateAll {n : String} (hn : n ∉ order) :
    (order.foldl recalculate cells).get? n = cells.get? n := by
  induction order generalizing cells with
  | nil => rfl
  | cons name order ih =>
    obtain ⟨hne, hn⟩ := List.ne_and_not_mem_of_not_mem_cons hn
    rw [List.foldl_cons, ih _ hn, get?_recalculate cells name hne]

lemma number?_congr {cells cells' : Cells} {n : String} (h : cells.get? n = cells'.get? n) :
    cells.number? n = cells'.number? n := by
  rw [number?, h, number?]

lemma value?_recalculateAll (ht : Topological cells.Refers order) (hn : order.Nodup)
    {n : String} (hm : n ∈ order) {f : Formula} (hf : cells.contents? n = some (.formula f)) :
    (order.foldl recalculate cells).value? n =
      some ((Contents.formula f).value (order.foldl recalculate cells).number?) := by
  induction order generalizing cells with
  | nil => exact (List.not_mem_nil hm).elim
  | cons name order ih =>
    obtain ⟨hname, hno⟩ := List.nodup_cons.mp hn
    rw [List.foldl_cons]
    have hrefers : (cells.recalculate name).Refers = cells.Refers := by
      funext x t
      rw [Refers, contents?_recalculate, Refers]
    rcases List.mem_cons.mp hm with rfl | hm
    · obtain ⟨⟨c, v⟩, hc, hcf⟩ := Option.map_eq_some_iff.mp hf
      obtain rfl : c = .formula f := hcf
      rw [value?, get?_recalculateAll _ order hname, recalculate_formula cells n hc, get?_put,
        if_pos rfl, Option.map_some]
      apply congrArg some
      change (Contents.formula f).value cells.number? = _
      apply Contents.value_congr
      intro x hx
      apply number?_congr
      have hx' : x ∉ n :: order := fun hmem =>
        ht.not_rel_head hn hmem ⟨.formula f, hf, hx⟩
      obtain ⟨hxn, hxo⟩ := List.ne_and_not_mem_of_not_mem_cons hx'
      rw [get?_recalculateAll _ order hxo, get?_put, if_neg hxn]
    · exact ih _ (hrefers ▸ ht.2) hno hm (by rw [contents?_recalculate, hf])

end Recalculate

section Store

variable (cells : Cells) (name : String) (c : Contents)

def stored : Cells := Sheet.store cells name ⟨c, c.value cells.number?⟩

lemma get?_stored (n : String) : (cells.stored name c).get? n =
    if n = name then if c.isBlank then none else some ⟨c, c.value cells.number?⟩
    else cells.get? n := by
  rw [stored, Sheet.store]
  split
  · rw [get?_erase]
  · rw [get?_put]

lemma contents?_stored (n : String) : (cells.stored name c).contents? n =
    if n = name then if c.isBlank then none else some c else cells.contents? n := by
  rw [contents?, get?_stored]
  split
  · split <;> rfl
  · rfl

lemma references_of_isBlank {c : Contents} (h : c.isBlank = true) : c.references = [] := by
  cases c with
  | text s => rfl
  | number x => cases h
  | formula f => cases h

lemma refers_stored (x t : String) : (cells.stored name c).Refers x t ↔
    if t = name then x ∈ c.references else cells.Refers x t := by
  rw [Refers, contents?_stored]
  by_cases ht : t = name
  · rw [if_pos ht, if_pos ht]
    cases hb : c.isBlank with
    | true => simp [references_of_isBlank hb]
    | false => simp
  · rw [if_neg ht, if_neg ht, Refers]

lemma solves_iff_get? : Meaning.Solves cells.contents? cells.value? ↔
    ∀ n cell, cells.get? n = some cell → cell.value = cell.contents.value cells.number? := by
  rw [Meaning.Solves]
  apply forall_congr'
  intro n
  rw [value?, contents?]
  cases cells.get? n with
  | none => simp
  | some cell => simp [Meaning.value_eq, number?_eq]

variable {cells name c}

lemma value_of_not_mem {order : List String}
    (hs : Meaning.Solves cells.contents? cells.value?) {n : String} (hn : n ∉ order) {cell : Cell}
    (hcell : (order.foldl recalculate (cells.stored name c)).get? n = some cell) :
    cell.value = cell.contents.value cells.number? := by
  rw [get?_recalculateAll _ order hn, get?_stored] at hcell
  split at hcell
  · split at hcell
    · cases hcell
    · obtain rfl := Option.some.inj hcell
      rfl
  · exact (solves_iff_get? cells).mp hs n cell hcell

theorem solves_recalculateAll {order : List String}
    (hs : Meaning.Solves cells.contents? cells.value?)
    (ht : Topological (cells.stored name c).Refers (name :: order)) (hn : (name :: order).Nodup)
    (hf : ∀ n ∈ order, ∃ x, (cells.stored name c).Refers x n) :
    Meaning.Solves (order.foldl recalculate (cells.stored name c)).contents?
      (order.foldl recalculate (cells.stored name c)).value? := by
  let final := order.foldl recalculate (cells.stored name c)
  have hcontents : final.contents? = (cells.stored name c).contents? :=
    contents?_recalculateAll _ order
  have hsame (x : String) (hx : x ∉ name :: order) : final.get? x = cells.get? x := by
    obtain ⟨hxn, hxo⟩ := List.ne_and_not_mem_of_not_mem_cons hx
    rw [get?_recalculateAll _ order hxo, get?_stored, if_neg hxn]
  rw [solves_iff_get?]
  intro n cell hcell
  have hstored : (cells.stored name c).contents? n = some cell.contents := by
    rw [← hcontents, contents?, hcell, Option.map_some]
  by_cases hno : n ∈ order
  · obtain ⟨x, c', hc', hx⟩ := hf n hno
    cases c' with
    | text s => exact (List.not_mem_nil hx).elim
    | number y => exact (List.not_mem_nil hx).elim
    | formula f =>
      have hv := value?_recalculateAll _ order ht.2 (List.nodup_cons.mp hn).2 hno hc'
      rw [value?, hcell] at hv
      rw [Option.some.inj (hstored.symm.trans hc')]
      exact Option.some.inj hv
  · rw [value_of_not_mem hs hno hcell]
    -- what `n` refers to is not recalculated, by the order of the list
    apply Contents.value_congr
    intro x hx
    apply number?_congr
    refine (hsame x fun hmem => ?_).symm
    have hr : (cells.stored name c).Refers x n := ⟨cell.contents, hstored, hx⟩
    by_cases hnn : n = name
    · subst hnn
      exact ht.not_rel_head hn hmem hr
    · exact List.not_mem_cons_of_ne_of_not_mem hnn hno (ht.mem_of_rel hmem hr)

end Store

lemma get?_of_mem {cells : Cells} (hn : cells.names.Nodup) {n : String} {cell : Cell}
    (h : (n, cell) ∈ cells) : cells.get? n = some cell := by
  induction cells with
  | nil => exact (List.not_mem_nil h).elim
  | cons entry cells ih =>
    obtain ⟨m, c⟩ := entry
    obtain ⟨hm, hn⟩ := List.nodup_cons.mp hn
    rw [get?_cons]
    rcases List.mem_cons.mp h with he | hcells
    · obtain ⟨rfl, rfl⟩ := Prod.mk.inj he
      exact if_pos rfl
    · have hne : n ≠ m := by
        rintro rfl
        exact hm (List.mem_map.mpr ⟨_, hcells, rfl⟩)
      rw [if_neg hne, ih hn hcells]

lemma mem_of_get? {cells : Cells} {n : String} {cell : Cell} (h : cells.get? n = some cell) :
    (n, cell) ∈ cells := by
  obtain ⟨before, after, rfl, -⟩ := List.lookup_eq_some_iff.mp h
  exact List.mem_append_right before List.mem_cons_self

lemma map_names {cells : Cells} (hn : cells.names.Nodup) :
    cells.names.map (fun n => (n, (cells.get? n).getD default)) = cells := by
  rw [names, List.map_map]
  refine (List.map_congr_left fun entry hentry => ?_).trans (List.map_id cells)
  change (entry.1, (cells.get? entry.1).getD default) = entry
  rw [get?_of_mem hn hentry]
  rfl

lemma eq_of_get? {cells cells' : Cells} (hn : cells.names.Nodup)
    (hnames : cells.names = cells'.names) (h : cells.get? = cells'.get?) : cells = cells' := by
  calc cells = cells.names.map fun n => (n, (cells.get? n).getD default) := (map_names hn).symm
    _ = cells'.names.map fun n => (n, (cells'.get? n).getD default) := by rw [hnames, h]
    _ = cells' := map_names (hnames ▸ hn)

lemma get?_eq_of_parts {cells cells' : Cells} (hc : cells.contents? = cells'.contents?)
    (hv : cells.value? = cells'.value?) : cells.get? = cells'.get? := by
  funext n
  have hcn := congrFun hc n
  have hvn := congrFun hv n
  rw [contents?, contents?] at hcn
  rw [value?, value?] at hvn
  cases h : cells.get? n with
  | none =>
    rw [h] at hcn
    exact (Option.map_eq_none_iff.mp hcn.symm).symm
  | some cell =>
    rw [h] at hcn hvn
    obtain ⟨cell', h', hc'⟩ := Option.map_eq_some_iff.mp hcn.symm
    obtain ⟨cell'', h'', hv'⟩ := Option.map_eq_some_iff.mp hvn.symm
    obtain rfl := Option.some.inj (h'.symm.trans h'')
    rw [h']
    obtain ⟨c, v⟩ := cell
    obtain ⟨c', v'⟩ := cell'
    obtain rfl : c' = c := hc'
    obtain rfl : v' = v := hv'
    rfl

end Cells

end Spreadsheet
