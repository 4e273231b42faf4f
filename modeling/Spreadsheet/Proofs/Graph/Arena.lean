import Mathlib
import Spreadsheet.Graph.Basic

/-! The slots of a dependency graph. The index, the names in the slots and the list of free slots
agree at every moment, also between the steps of an operation. -/

namespace Spreadsheet

namespace Slot

variable (slot : Slot) (side : Side)

lemma neighbours_update (f : SlotSet → SlotSet) (other : Side) :
    (slot.update f side).neighbours other =
      if other = side then f (slot.neighbours other) else slot.neighbours other := by
  cases side <;> cases other <;> rfl

lemma neighbours_rename (name : String) :
    (slot.rename name).neighbours side = slot.neighbours side := by
  cases side <;> rfl

lemma name_update (f : SlotSet → SlotSet) : (slot.update f side).name = slot.name := by
  cases side <;> rfl

lemma not_mem_default (i : Nat) : i ∉ (default : Slot).neighbours side := by
  cases side <;> exact SlotSet.not_mem_empty i

lemma isUnused_eq_false : slot.isUnused = false ↔ ∃ side i, i ∈ slot.neighbours side := by
  have hset (s : SlotSet) : s.isEmpty = false ↔ ∃ i, i ∈ s := by
    rcases s with ⟨_ | ⟨i, is⟩, h⟩
    · refine ⟨fun h => Bool.noConfusion h, ?_⟩
      rintro ⟨i, hi⟩
      exact (SlotSet.not_mem_empty i hi).elim
    · exact ⟨fun _ => ⟨i, List.mem_cons_self⟩, fun _ => rfl⟩
  rw [isUnused, Bool.and_eq_false_iff, hset, hset]
  constructor
  · rintro (⟨i, hi⟩ | ⟨i, hi⟩)
    · exact ⟨.dependents, i, hi⟩
    · exact ⟨.dependees, i, hi⟩
  · rintro ⟨_ | _, i, hi⟩
    · exact Or.inl ⟨i, hi⟩
    · exact Or.inr ⟨i, hi⟩

end Slot

lemma Side.opposite_opposite (side : Side) : side.opposite.opposite = side := by
  cases side <;> rfl

lemma Side.opposite_ne (side : Side) : side.opposite ≠ side := by
  cases side <;> decide

lemma Side.eq_or_eq_opposite (side other : Side) : other = side ∨ other = side.opposite := by
  cases side <;> cases other <;> decide

namespace Graph

def Edge (g : Graph) (side : Side) (i j : Nat) : Prop := j ∈ (g.slot i).neighbours side

def Live (g : Graph) (i : Nat) : Prop := g.slotOf? (g.nameOf i) = some i

structure Indexed (g : Graph) : Prop where
  slot_lt {n : String} {i : Nat} (h : g.slotOf? n = some i) : i < g.slots.size
  nameOf_slot {n : String} {i : Nat} (h : g.slotOf? n = some i) : g.nameOf i = n
  free_nodup : g.free.Nodup
  mem_free (i : Nat) : i ∈ g.free ↔ i < g.slots.size ∧ ¬ g.Live i
  live_of_edge {side : Side} {i j : Nat} (h : g.Edge side i j) : g.Live i

def Extends (g g' : Graph) : Prop := ∀ n i, g.slotOf? n = some i → g'.slotOf? n = some i

lemma Extends.refl (g : Graph) : Extends g g := fun _ _ h => h

lemma Extends.trans {g g' g'' : Graph} (h : Extends g g') (h' : Extends g' g'') :
    Extends g g'' := fun n i hi => h' n i (h n i hi)

lemma slot_eq (g : Graph) (i : Nat) : g.slot i = g.slots[i]?.getD default := by
  rw [slot, Array.getD_eq_getD_getElem?]

lemma slot_of_size_le (g : Graph) (i : Nat) (h : g.slots.size ≤ i) : g.slot i = default := by
  rw [slot_eq, Array.getElem?_eq_none h, Option.getD_none]

lemma slot_modifySlot (g : Graph) (i k : Nat) (f : Slot → Slot) (h : i < g.slots.size) :
    (g.modifySlot i f).slot k = if k = i then f (g.slot k) else g.slot k := by
  simp only [slot_eq, modifySlot, Array.getElem?_modify]
  by_cases hk : k = i
  · subst hk
    simp [h]
  · simp [hk, Ne.symm hk]

lemma nameOf_modifySlot (g : Graph) (i k : Nat) (f : SlotSet → SlotSet) (side : Side)
    (h : i < g.slots.size) : (g.modifySlot i (·.update f side)).nameOf k = g.nameOf k := by
  rw [nameOf, slot_modifySlot g i k _ h]
  split
  · exact Slot.name_update _ _ _
  · rfl

lemma edge_modifySlot (g : Graph) (i a b : Nat) (f : SlotSet → SlotSet) (side other : Side)
    (h : i < g.slots.size) :
    (g.modifySlot i (·.update f side)).Edge other a b ↔
      if a = i ∧ other = side then b ∈ f ((g.slot a).neighbours other) else g.Edge other a b := by
  rw [Edge, slot_modifySlot g i a _ h]
  by_cases ha : a = i
  · subst ha
    by_cases hs : other = side <;> simp [Slot.neighbours_update, hs, Edge]
  · simp [ha, Edge]

section Indexed

variable {g : Graph}

lemma Indexed.live_of_slot (h : g.Indexed) {n : String} {i : Nat} (hi : g.slotOf? n = some i) :
    g.Live i := by
  rw [Live, h.nameOf_slot hi]
  exact hi

lemma Indexed.slot_lt_of_edge (h : g.Indexed) {side : Side} {i j : Nat} (he : g.Edge side i j) :
    i < g.slots.size := h.slot_lt (h.live_of_edge he)

lemma Indexed.slot_injective (h : g.Indexed) {n n' : String} {i : Nat}
    (hn : g.slotOf? n = some i) (hn' : g.slotOf? n' = some i) : n = n' := by
  rw [← h.nameOf_slot hn, h.nameOf_slot hn']

lemma nodup_nameOf {is : List Nat} (hn : is.Nodup) (hl : ∀ i ∈ is, g.Live i) :
    (is.map g.nameOf).Nodup := by
  refine List.Nodup.map_on (fun i hi j hj he => ?_) hn
  have hli := hl i hi
  rw [Live, he] at hli
  exact Option.some.inj (hli.symm.trans (hl j hj))

lemma Indexed.resize (h : g.Indexed) (n : Nat) : Indexed { g with size := n } :=
  ⟨h.slot_lt, h.nameOf_slot, h.free_nodup, h.mem_free, h.live_of_edge⟩

lemma Indexed.modifySlot (h : g.Indexed) (i : Nat) (f : SlotSet → SlotSet) (side : Side)
    (hi : i < g.slots.size)
    (hf : g.Live i ∨ ∀ j, j ∈ f ((g.slot i).neighbours side) → g.Edge side i j) :
    (g.modifySlot i (·.update f side)).Indexed where
  slot_lt hn := by
    simp only [Graph.modifySlot, Array.size_modify]
    exact h.slot_lt hn
  nameOf_slot hn := by
    rw [nameOf_modifySlot g i _ f side hi]
    exact h.nameOf_slot hn
  free_nodup := h.free_nodup
  mem_free k := by
    rw [Live, nameOf_modifySlot g i k f side hi]
    simp only [Graph.modifySlot, Array.size_modify]
    exact h.mem_free k
  live_of_edge {other a b} he := by
    rw [Live, nameOf_modifySlot g i a f side hi]
    rw [edge_modifySlot g i a b f side other hi] at he
    split at he
    · rename_i hc
      obtain ⟨rfl, rfl⟩ := hc
      rcases hf with hl | hf
      · exact hl
      · exact h.live_of_edge (hf b he)
    · exact h.live_of_edge he

end Indexed

section Intern

variable (g : Graph) (name : String)

lemma intern_known {i : Nat} (h : g.slotOf? name = some i) : g.intern name = (g, i) := by
  simp only [intern, h]

def named (i : Nat) (slots : Array Slot) (free : List Nat) : Graph :=
  ⟨slots, g.index.insert name i, free, g.size⟩

lemma intern_free {i : Nat} {free : List Nat} (h : g.slotOf? name = none)
    (hf : g.free = i :: free) :
    g.intern name = (g.named name i (g.slots.modify i (·.rename name)) free, i) := by
  simp only [intern, h, hf, named]

lemma intern_new (h : g.slotOf? name = none) (hf : g.free = []) :
    g.intern name =
      (g.named name g.slots.size (g.slots.push ⟨name, .empty, .empty⟩) [], g.slots.size) := by
  simp only [intern, h, hf, named]

lemma slotOf?_named (i : Nat) (slots : Array Slot) (free : List Nat) (n : String) :
    (g.named name i slots free).slotOf? n = if n = name then some i else g.slotOf? n := by
  rw [slotOf?, named, Std.TreeMap.getElem?_insert]
  simp only [Std.LawfulEqCmp.compare_eq_iff_eq, eq_comm (a := name)]
  rfl

lemma slotOf?_intern (n : String) :
    (g.intern name).1.slotOf? n = if n = name then some (g.intern name).2 else g.slotOf? n := by
  cases hn : g.slotOf? name with
  | some i =>
    rw [intern_known g name hn]
    split
    · rename_i h
      rw [h, hn]
    · rfl
  | none =>
    cases hf : g.free with
    | nil => rw [intern_new g name hn hf, slotOf?_named]
    | cons i free => rw [intern_free g name hn hf, slotOf?_named]

lemma extends_intern : g.Extends (g.intern name).1 := by
  intro n i hi
  rw [slotOf?_intern]
  split
  · rename_i h
    subst h
    rw [intern_known g n hi]
  · exact hi

variable {g}

lemma Indexed.named (h : g.Indexed) {i : Nat} {slots : Array Slot} {free : List Nat}
    (hn : g.slotOf? name = none) (hi : i < slots.size) (hs : g.slots.size ≤ slots.size)
    (hslot : ∀ k, (g.named name i slots free).slot k =
      if k = i then (g.slot k).rename name else g.slot k)
    (hl : ¬ g.Live i) (hfree : free.Nodup)
    (hmem : ∀ k, k ∈ free ↔ k < slots.size ∧ k ≠ i ∧ ¬ g.Live k) :
    (g.named name i slots free).Indexed := by
  have hself : (g.named name i slots free).Live i := by
    rw [Live, nameOf, hslot, if_pos rfl, Slot.rename, slotOf?_named, if_pos rfl]
  have hlive (k : Nat) (hk : k ≠ i) : (g.named name i slots free).Live k ↔ g.Live k := by
    rw [Live, nameOf, hslot, if_neg hk, slotOf?_named, ← nameOf]
    split
    · rename_i he
      rw [Live, he, hn]
      exact ⟨fun h => (hk (Option.some.inj h).symm).elim, fun h => by cases h⟩
    · rfl
  refine ⟨fun {n k} hk => ?_, fun {n k} hk => ?_, hfree, fun k => (hmem k).trans ?_,
    fun {side a b} he => ?_⟩
  · rw [slotOf?_named] at hk
    split at hk
    · exact Option.some.inj hk ▸ hi
    · exact Nat.lt_of_lt_of_le (h.slot_lt hk) hs
  · rw [slotOf?_named] at hk
    rw [nameOf, hslot]
    split at hk
    · rename_i he
      rw [if_pos (Option.some.inj hk).symm, he, Slot.rename]
    · have hne : k ≠ i := by
        rintro rfl
        exact hl (h.live_of_slot hk)
      rw [if_neg hne]
      exact h.nameOf_slot hk
  · by_cases hk : k = i
    · subst hk
      exact ⟨fun hc => (hc.2.1 rfl).elim, fun hc => (hc.2 hself).elim⟩
    · rw [hlive k hk]
      exact ⟨fun hc => ⟨hc.1, hc.2.2⟩, fun hc => ⟨hc.1, hk, hc.2⟩⟩
  · by_cases ha : a = i
    · exact ha ▸ hself
    · rw [Edge, hslot, if_neg ha] at he
      exact (hlive a ha).mpr (h.live_of_edge he)

lemma slot_intern_free {i : Nat} (free : List Nat) (hi : i < g.slots.size) (k : Nat) :
    (g.named name i (g.slots.modify i (·.rename name)) free).slot k =
      if k = i then (g.slot k).rename name else g.slot k :=
  slot_modifySlot g i k _ hi

lemma slot_intern_new (k : Nat) :
    (g.named name g.slots.size (g.slots.push ⟨name, .empty, .empty⟩) []).slot k =
      if k = g.slots.size then (g.slot k).rename name else g.slot k := by
  rw [slot_eq, named, Array.getElem?_push]
  split
  · rename_i hk
    rw [slot_of_size_le g k (Nat.le_of_eq hk.symm)]
    rfl
  · rw [slot_eq]

lemma Indexed.intern (h : g.Indexed) : (g.intern name).1.Indexed := by
  cases hn : g.slotOf? name with
  | some i =>
    rw [intern_known g name hn]
    exact h
  | none =>
    cases hf : g.free with
    | nil =>
      rw [intern_new g name hn hf]
      have hlive (k : Nat) (hk : k < g.slots.size) : g.Live k := by
        by_contra hl
        have := (h.mem_free k).mpr ⟨hk, hl⟩
        rw [hf] at this
        exact List.not_mem_nil this
      refine h.named name hn (by simp) (by simp) (slot_intern_new name) ?_ List.nodup_nil ?_
      · exact fun hl => Nat.lt_irrefl _ (h.slot_lt hl)
      · intro k
        have := hlive k
        simp only [List.not_mem_nil, Array.size_push, false_iff]
        rintro ⟨hk, hne, hl⟩
        exact hl (this (by omega))
    | cons i free =>
      rw [intern_free g name hn hf]
      have hi := (h.mem_free i).mp (hf ▸ List.mem_cons_self)
      have hnd := List.nodup_cons.mp (hf ▸ h.free_nodup)
      refine h.named name hn (by simpa using hi.1) (by simp) (slot_intern_free name free hi.1)
        hi.2 hnd.2 fun k => ?_
      have hk := h.mem_free k
      rw [hf, List.mem_cons] at hk
      rw [Array.size_modify]
      constructor
      · intro hm
        have hne : k ≠ i := by
          rintro rfl
          exact hnd.1 hm
        exact ⟨(hk.mp (Or.inr hm)).1, hne, (hk.mp (Or.inr hm)).2⟩
      · rintro ⟨hlt, hne, hl⟩
        exact (hk.mpr ⟨hlt, hl⟩).resolve_left hne

lemma edge_intern (h : g.Indexed) (side : Side) (i j : Nat) :
    (g.intern name).1.Edge side i j ↔ g.Edge side i j := by
  cases hn : g.slotOf? name with
  | some k => rw [intern_known g name hn]
  | none =>
    cases hf : g.free with
    | nil =>
      rw [intern_new g name hn hf, Edge, slot_intern_new]
      split
      · rw [Slot.neighbours_rename, Edge]
      · rfl
    | cons k free =>
      have hk := (h.mem_free k).mp (hf ▸ List.mem_cons_self)
      rw [intern_free g name hn hf, Edge, slot_intern_free name free hk.1]
      split
      · rw [Slot.neighbours_rename, Edge]
      · rfl

lemma slotOf?_intern_self : (g.intern name).1.slotOf? name = some (g.intern name).2 := by
  rw [slotOf?_intern, if_pos rfl]

end Intern

section Release

variable {g : Graph}

lemma release_of_used {i : Nat} (h : (g.slot i).isUnused = false) : g.release i = g := by
  rw [release, if_neg]
  simp [h]

lemma release_of_dead {i : Nat} (h : ¬ g.Live i) : g.release i = g := by
  rw [release, if_neg]
  exact fun hc => h hc.1

lemma release_of_unused {i : Nat} (hl : g.Live i) (hu : (g.slot i).isUnused = true) :
    g.release i =
      ⟨g.slots.modify i (·.rename ""), g.index.erase (g.nameOf i), i :: g.free, g.size⟩ := by
  rw [release, if_pos ⟨hl, hu⟩, nameOf]

lemma slotOf?_release (h : g.Indexed) (i k : Nat) (n : String) :
    (g.release i).slotOf? n = some k ↔
      g.slotOf? n = some k ∧ (k = i → (g.slot i).isUnused = false) := by
  by_cases hl : g.Live i
  · cases hu : (g.slot i).isUnused with
    | false => simp [release_of_used hu]
    | true =>
      have hn : (g.release i).slotOf? n = if g.nameOf i = n then none else g.slotOf? n := by
        rw [release_of_unused hl hu, slotOf?, Std.TreeMap.getElem?_erase]
        simp only [Std.LawfulEqCmp.compare_eq_iff_eq]
        rfl
      rw [hn]
      split
      · rename_i he
        subst he
        rw [Live] at hl
        simp only [hl, Option.some.injEq, reduceCtorEq, false_iff]
        exact fun hc => hc.2 hc.1.symm
      · rename_i he
        refine ⟨fun hk => ⟨hk, ?_⟩, fun hk => hk.1⟩
        rintro rfl
        exact (he (h.nameOf_slot hk)).elim
  · rw [release_of_dead hl]
    refine ⟨fun hk => ⟨hk, ?_⟩, fun hk => hk.1⟩
    rintro rfl
    exact (hl (h.live_of_slot hk)).elim

lemma release_extends (h : g.Indexed) (i : Nat) : (g.release i).Extends g :=
  fun n k hk => ((slotOf?_release h i k n).mp hk).1

lemma slot_release (i k : Nat) : (g.release i).slot k = g.slot k ∨
    k = i ∧ (g.release i).slot k = (g.slot k).rename "" := by
  rw [release]
  split
  · by_cases hi : i < g.slots.size
    · have hk : (g.modifySlot i (·.rename "")).slot k = _ := slot_modifySlot g i k _ hi
      by_cases hki : k = i
      · exact Or.inr ⟨hki, hk.trans (if_pos hki)⟩
      · exact Or.inl (hk.trans (if_neg hki))
    · left
      rw [slot_eq, Array.getElem?_modify, slot_eq]
      split
      · rename_i hki
        rw [Array.getElem?_eq_none (by omega), Option.map_none]
      · rfl
  · exact Or.inl rfl

lemma edge_release (i a b : Nat) (side : Side) :
    (g.release i).Edge side a b ↔ g.Edge side a b := by
  rcases slot_release (g := g) i a with h | ⟨-, h⟩
  · rw [Edge, h, Edge]
  · rw [Edge, h, Slot.neighbours_rename, Edge]

lemma nameOf_release {i k : Nat} (hk : k ≠ i) : (g.release i).nameOf k = g.nameOf k := by
  rcases slot_release (g := g) i k with hs | ⟨hki, -⟩
  · rw [nameOf, hs, nameOf]
  · exact (hk hki).elim

lemma live_release (h : g.Indexed) (i k : Nat) :
    (g.release i).Live k ↔ g.Live k ∧ (k = i → (g.slot i).isUnused = false) := by
  constructor
  · intro hl
    obtain ⟨hk, hu⟩ := (slotOf?_release h i k _).mp hl
    exact ⟨h.live_of_slot hk, hu⟩
  · rintro ⟨hl, hu⟩
    by_cases hki : k = i
    · rw [release_of_used (hu hki)]
      exact hl
    · rw [Live, nameOf_release hki]
      exact (slotOf?_release h i k _).mpr ⟨hl, hu⟩

lemma Indexed.release (h : g.Indexed) (i : Nat) : (g.release i).Indexed := by
  cases hu : (g.slot i).isUnused with
  | false =>
    rw [release_of_used hu]
    exact h
  | true =>
  by_cases hl : g.Live i
  · have hne {n : String} {k : Nat} (hk : (g.release i).slotOf? n = some k) : k ≠ i := by
      rintro rfl
      exact Bool.noConfusion (((slotOf?_release h k k n).mp hk).2 rfl ▸ hu)
    have hlive (k : Nat) : (g.release i).Live k ↔ g.Live k ∧ k ≠ i := by
      rw [live_release h, hu]
      simp
    have hsize : (g.release i).slots.size = g.slots.size := by
      rw [release_of_unused hl hu, Array.size_modify]
    have hfree : (g.release i).free = i :: g.free := by
      rw [release_of_unused hl hu]
    refine ⟨fun hk => ?_, fun hk => ?_, ?_, fun k => ?_, fun {side a b} he => ?_⟩
    · rw [hsize]
      exact h.slot_lt (release_extends h i _ _ hk)
    · rw [nameOf_release (hne hk)]
      exact h.nameOf_slot (release_extends h i _ _ hk)
    · rw [hfree]
      exact List.nodup_cons.mpr ⟨fun hi => ((h.mem_free i).mp hi).2 hl, h.free_nodup⟩
    · rw [hfree, List.mem_cons, hlive, hsize, h.mem_free]
      have := h.slot_lt hl
      by_cases hk : k = i
      · simp [hk, this]
      · simp [hk]
    · rw [edge_release] at he
      refine (hlive a).mpr ⟨h.live_of_edge he, ?_⟩
      rintro rfl
      exact Bool.noConfusion ((Slot.isUnused_eq_false _).mpr ⟨side, b, he⟩ ▸ hu)
  · rw [release_of_dead hl]
    exact h

end Release

end Graph

end Spreadsheet
