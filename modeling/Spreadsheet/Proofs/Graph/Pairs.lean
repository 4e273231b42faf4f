import Spreadsheet.Proofs.Graph.Arena

/-! The dependency graph as a set of ordered pairs of names, and what its operations do to the
set. A bulk operation empties one set of a slot first and takes the slot out of the sets of its
former neighbours afterwards; `Detaching` is what holds in between. -/

namespace Spreadsheet

def Side.orient {α : Type} (side : Side) (a b : α) : α × α :=
  match side with
  | .dependents => (a, b)
  | .dependees => (b, a)

lemma Side.orient_opposite {α : Type} (side : Side) (a b : α) :
    side.opposite.orient a b = side.orient b a := by
  cases side <;> rfl

lemma Side.orient_orient {α : Type} (side : Side) (a b : α) :
    side.orient (side.orient a b).1 (side.orient a b).2 = (a, b) := by
  cases side <;> rfl

namespace Graph

structure WellFormed (g : Graph) : Prop extends g.Indexed where
  symm (side : Side) (i j : Nat) : g.Edge side.opposite i j ↔ g.Edge side j i
  used {i : Nat} (h : g.Live i) : (g.slot i).isUnused = false

def Pair (g : Graph) (s t : String) : Prop := t ∈ g.dependents s

def Related (g : Graph) (side : Side) (n m : String) : Prop :=
  ∃ i j, g.slotOf? n = some i ∧ g.slotOf? m = some j ∧ g.Edge side i j

lemma isUnused_eq_false_iff (g : Graph) (i : Nat) :
    (g.slot i).isUnused = false ↔ ∃ side j, g.Edge side i j := Slot.isUnused_eq_false _

lemma wellFormed_empty : WellFormed .empty := by
  have hslot (n : String) : Graph.empty.slotOf? n = none := Std.TreeMap.getElem?_emptyc
  have hlive (i : Nat) : ¬ Graph.empty.Live i := by
    rw [Live, hslot]
    exact fun h => by cases h
  have hedge (side : Side) (i j : Nat) : ¬ Graph.empty.Edge side i j :=
    Slot.not_mem_default side j
  exact
    { slot_lt := fun h => by cases (hslot _).symm.trans h
      nameOf_slot := fun h => by cases (hslot _).symm.trans h
      free_nodup := List.nodup_nil
      mem_free := fun i =>
        ⟨fun h => (List.not_mem_nil h).elim, fun h => (Nat.not_lt_zero i h.1).elim⟩
      live_of_edge := fun h => (hedge _ _ _ h).elim
      symm := fun side i j => iff_of_false (hedge _ _ _) (hedge _ _ _)
      used := fun h => (hlive _ h).elim }

variable {g : Graph}

lemma WellFormed.live_right (h : g.WellFormed) {side : Side} {i j : Nat} (he : g.Edge side i j) :
    g.Live j := h.live_of_edge ((h.symm side j i).mpr he)

lemma related_opposite (h : g.WellFormed) (side : Side) (n m : String) :
    g.Related side.opposite n m ↔ g.Related side m n := by
  constructor
  · rintro ⟨i, j, hi, hj, he⟩
    exact ⟨j, i, hj, hi, (h.symm side i j).mp he⟩
  · rintro ⟨j, i, hj, hi, he⟩
    exact ⟨i, j, hi, hj, (h.symm side i j).mpr he⟩

lemma mem_neighbours_iff (h : g.WellFormed) (side : Side) (n m : String) :
    m ∈ (g.neighbourSlots side n).map g.nameOf ↔ g.Related side n m := by
  rw [neighbourSlots]
  constructor
  · intro hm
    obtain ⟨j, hj, rfl⟩ := List.mem_map.mp hm
    cases hn : g.slotOf? n with
    | none =>
      rw [hn] at hj
      exact (List.not_mem_nil hj).elim
    | some i =>
      rw [hn] at hj
      have he : g.Edge side i j := hj
      exact ⟨i, j, hn, h.live_right he, hj⟩
  · rintro ⟨i, j, hi, hj, he⟩
    rw [hi]
    exact List.mem_map.mpr ⟨j, he, h.nameOf_slot hj⟩

lemma nodup_neighbours (h : g.WellFormed) (side : Side) (n : String) :
    ((g.neighbourSlots side n).map g.nameOf).Nodup := by
  apply nodup_nameOf
  · rw [neighbourSlots]
    split
    · exact SlotSet.nodup _
    · exact List.nodup_nil
  · intro j hj
    rw [neighbourSlots] at hj
    split at hj
    · rename_i i _
      have he : g.Edge side i j := hj
      exact h.live_right he
    · exact (List.not_mem_nil hj).elim

lemma neighbours_nonempty_iff (h : g.WellFormed) (side : Side) (n : String) :
    (!(g.neighbourSlots side n).isEmpty) = true ↔ ∃ m, g.Related side n m := by
  rw [Bool.not_eq_true', List.isEmpty_eq_false_iff_exists_mem]
  constructor
  · rintro ⟨j, hj⟩
    exact ⟨_, (mem_neighbours_iff h side n _).mp (List.mem_map_of_mem hj)⟩
  · rintro ⟨m, hm⟩
    obtain ⟨j, hj, -⟩ := List.mem_map.mp ((mem_neighbours_iff h side n m).mpr hm)
    exact ⟨j, hj⟩

lemma pair_iff (h : g.WellFormed) (s t : String) : g.Pair s t ↔ g.Related .dependents s t :=
  mem_neighbours_iff h .dependents s t

lemma mem_dependees_iff (h : g.WellFormed) (s t : String) : s ∈ g.dependees t ↔ g.Pair s t := by
  rw [pair_iff h]
  exact (mem_neighbours_iff h .dependees t s).trans (related_opposite h .dependents t s)

lemma knows_iff (h : g.WellFormed) (n : String) :
    g.knows n = true ↔ ∃ m, g.Pair n m ∨ g.Pair m n := by
  simp only [pair_iff h]
  constructor
  · intro hn
    obtain ⟨i, hi⟩ := Option.isSome_iff_exists.mp hn
    obtain ⟨side, j, he⟩ := (isUnused_eq_false_iff g i).mp (h.used (h.live_of_slot hi))
    have hr : g.Related side n (g.nameOf j) := ⟨i, j, hi, h.live_right he, he⟩
    cases side with
    | dependents => exact ⟨_, Or.inl hr⟩
    | dependees => exact ⟨_, Or.inr ((related_opposite h .dependents _ _).mp hr)⟩
  · rintro ⟨m, ⟨i, j, hi, -, -⟩ | ⟨i, j, -, hj, -⟩⟩
    · exact Option.isSome_iff_exists.mpr ⟨i, hi⟩
    · exact Option.isSome_iff_exists.mpr ⟨j, hj⟩

lemma not_pair_empty (s t : String) : ¬ Graph.empty.Pair s t := by
  rw [pair_iff wellFormed_empty]
  rintro ⟨i, -, hi, -, -⟩
  cases hi

section Link

variable {side : Side} {i j : Nat}

def inserted (g : Graph) (side : Side) (i j : Nat) : Graph :=
  g.modifySlot i (·.update (·.insert j) side)

lemma edge_inserted (hi : i < g.slots.size) (other : Side) (a b : Nat) :
    (g.inserted side i j).Edge other a b ↔
      g.Edge other a b ∨ (other = side ∧ a = i ∧ b = j) := by
  apply (edge_modifySlot g i a b (·.insert j) side other hi).trans
  by_cases h : a = i ∧ other = side
  · obtain ⟨rfl, rfl⟩ := h
    simp only [and_self, if_true, true_and]
    exact (SlotSet.mem_insert _ _ _).trans or_comm
  · rw [if_neg h]
    exact (or_iff_left fun hc => h ⟨hc.2.1, hc.1⟩).symm

lemma Indexed.inserted (h : g.Indexed) (hi : g.Live i) : (g.inserted side i j).Indexed :=
  h.modifySlot i (·.insert j) side (h.slot_lt hi) (Or.inl hi)

lemma live_inserted (hi : i < g.slots.size) (k : Nat) :
    (g.inserted side i j).Live k ↔ g.Live k := by
  rw [Live, Graph.inserted, nameOf_modifySlot g i k _ side hi]
  rfl

lemma link_of_edge (he : g.Edge .dependents i j) : g.link i j = g := if_pos he

lemma link_of_not_edge (he : ¬ g.Edge .dependents i j) : g.link i j =
    { (g.inserted .dependents i j).inserted .dependees j i with size := g.size + 1 } := if_neg he

lemma edge_link (h : g.Indexed) (hs : ∀ side i j, g.Edge side.opposite i j ↔ g.Edge side j i)
    (hi : g.Live i) (hj : g.Live j) (side : Side) (a b : Nat) :
    (g.link i j).Edge side a b ↔ g.Edge side a b ∨ (a, b) = side.orient i j := by
  have hil := h.slot_lt hi
  by_cases he : g.Edge .dependents i j
  · rw [link_of_edge he]
    refine (or_iff_left_of_imp fun hab => ?_).symm
    cases side with
    | dependents =>
      obtain ⟨rfl, rfl⟩ := Prod.mk.inj hab
      exact he
    | dependees =>
      obtain ⟨rfl, rfl⟩ := Prod.mk.inj hab
      exact (hs .dependents a b).mpr he
  · have hjl : j < (g.inserted .dependents i j).slots.size :=
      (h.inserted hi).slot_lt ((live_inserted hil j).mpr hj)
    rw [link_of_not_edge he]
    apply (edge_inserted hjl side a b).trans
    rw [edge_inserted hil]
    cases side <;> simp [Side.orient, Prod.ext_iff]

lemma slotOf?_link (i j : Nat) (n : String) : (g.link i j).slotOf? n = g.slotOf? n := by
  rw [link]
  split <;> rfl

lemma Indexed.link (h : g.Indexed) (hi : g.Live i) (hj : g.Live j) : (g.link i j).Indexed := by
  by_cases he : g.Edge .dependents i j
  · rw [link_of_edge he]
    exact h
  · rw [link_of_not_edge he]
    exact ((h.inserted hi).inserted ((live_inserted (h.slot_lt hi) j).mpr hj)).resize _

end Link

section Gain

variable {g' : Graph} {s t : String} {i j : Nat}

lemma related_gain (h : g.WellFormed) (h' : g'.Indexed) (hext : g.Extends g')
    (hi : g'.slotOf? s = some i) (hj : g'.slotOf? t = some j)
    (hedge : ∀ side a b, g'.Edge side a b ↔ g.Edge side a b ∨ (a, b) = side.orient i j)
    (side : Side) (n m : String) :
    g'.Related side n m ↔ g.Related side n m ∨ (n, m) = side.orient s t := by
  constructor
  · rintro ⟨a, b, ha, hb, he⟩
    rcases (hedge side a b).mp he with he | he
    · left
      have hla := h.live_of_edge he
      have hlb := h.live_right he
      have hna := h'.slot_injective ha (hext _ _ hla)
      have hnb := h'.slot_injective hb (hext _ _ hlb)
      exact ⟨a, b, hna ▸ hla, hnb ▸ hlb, he⟩
    · right
      cases side with
      | dependents =>
        obtain ⟨rfl, rfl⟩ := Prod.mk.inj he
        rw [h'.slot_injective ha hi, h'.slot_injective hb hj, Side.orient]
      | dependees =>
        obtain ⟨rfl, rfl⟩ := Prod.mk.inj he
        rw [h'.slot_injective ha hj, h'.slot_injective hb hi, Side.orient]
  · rintro (⟨a, b, ha, hb, he⟩ | he)
    · exact ⟨a, b, hext _ _ ha, hext _ _ hb, (hedge side a b).mpr (Or.inl he)⟩
    · cases side with
      | dependents =>
        obtain ⟨rfl, rfl⟩ := Prod.mk.inj he
        exact ⟨i, j, hi, hj, (hedge _ _ _).mpr (Or.inr rfl)⟩
      | dependees =>
        obtain ⟨rfl, rfl⟩ := Prod.mk.inj he
        exact ⟨j, i, hj, hi, (hedge _ _ _).mpr (Or.inr rfl)⟩

lemma WellFormed.gain (h : g.WellFormed) (h' : g'.Indexed)
    (hlive : ∀ k, g'.Live k → g.Live k ∨ k = i ∨ k = j)
    (hedge : ∀ side a b, g'.Edge side a b ↔ g.Edge side a b ∨ (a, b) = side.orient i j) :
    g'.WellFormed where
  toIndexed := h'
  symm side a b := by
    rw [hedge, hedge, h.symm, Side.orient_opposite]
    apply or_congr_right
    cases side <;> simp [Side.orient, and_comm]
  used {k} hk := by
    rw [isUnused_eq_false_iff]
    rcases hlive k hk with hk | rfl | rfl
    · obtain ⟨side, l, he⟩ := (isUnused_eq_false_iff g k).mp (h.used hk)
      exact ⟨side, l, (hedge side k l).mpr (Or.inl he)⟩
    · exact ⟨.dependents, j, (hedge _ _ _).mpr (Or.inr rfl)⟩
    · exact ⟨.dependees, i, (hedge _ _ _).mpr (Or.inr rfl)⟩

end Gain

section Add

variable (s t : String)

lemma live_intern (h : g.Indexed) (name : String) (k : Nat) (hk : (g.intern name).1.Live k) :
    g.Live k ∨ k = (g.intern name).2 := by
  rw [Live, slotOf?_intern] at hk
  split at hk
  · exact Or.inr (Option.some.inj hk).symm
  · exact Or.inl (h.live_of_slot hk)

lemma size_intern (g : Graph) (name : String) : (g.intern name).1.size = g.size := by
  rw [intern]
  split
  · rfl
  · split <;> rfl

lemma size_link (g : Graph) (i j : Nat) :
    (g.link i j).size = if j ∈ (g.slot i).dependents then g.size else g.size + 1 := by
  rw [link]
  split <;> rfl

lemma add_spec (h : g.WellFormed) : ∃ i j, (g.add s t).Indexed ∧ g.Extends (g.add s t) ∧
    (g.add s t).slotOf? s = some i ∧ (g.add s t).slotOf? t = some j ∧
    ((g.add s t).size = if j ∈ (g.slot i).dependents then g.size else g.size + 1) ∧
    (∀ k, (g.add s t).Live k → g.Live k ∨ k = i ∨ k = j) ∧
    ∀ side a b, (g.add s t).Edge side a b ↔ g.Edge side a b ∨ (a, b) = side.orient i j := by
  let g₁ := (g.intern s).1
  let g₂ := (g₁.intern t).1
  let i := (g.intern s).2
  let j := (g₁.intern t).2
  have h₁ : g₁.Indexed := h.toIndexed.intern s
  have h₂ : g₂.Indexed := h₁.intern t
  have hi : g₂.slotOf? s = some i := g₁.extends_intern t s i (slotOf?_intern_self s)
  have hj : g₂.slotOf? t = some j := slotOf?_intern_self t
  have hext : g.Extends g₂ := (g.extends_intern s).trans (g₁.extends_intern t)
  have hedge (side : Side) (a b : Nat) : g₂.Edge side a b ↔ g.Edge side a b :=
    (edge_intern t h₁ side a b).trans (edge_intern s h.toIndexed side a b)
  have hsymm (side : Side) (a b : Nat) : g₂.Edge side.opposite a b ↔ g₂.Edge side b a := by
    rw [hedge, hedge]
    exact h.symm side a b
  have hslot (n : String) : (g.add s t).slotOf? n = g₂.slotOf? n := slotOf?_link i j n
  have hadd : (g.add s t).Indexed := h₂.link (h₂.live_of_slot hi) (h₂.live_of_slot hj)
  have hsize : (g.add s t).size =
      if j ∈ (g.slot i).dependents then g.size else g.size + 1 := by
    have hsize₂ : g₂.size = g.size := (size_intern g₁ t).trans (size_intern g s)
    rw [← hsize₂]
    exact (size_link g₂ i j).trans (if_congr (hedge .dependents i j) rfl rfl)
  refine ⟨i, j, hadd, fun n k hk => ?_, (hslot s).trans hi, (hslot t).trans hj, hsize,
    fun k hk => ?_, fun side a b => ?_⟩
  · rw [hslot]
    exact hext n k hk
  · have hk₂ : g₂.Live k := h₂.live_of_slot ((hslot _).symm.trans hk)
    rcases live_intern h₁ t k hk₂ with hk₁ | rfl
    · rcases live_intern h.toIndexed s k hk₁ with hk | rfl
      · exact Or.inl hk
      · exact Or.inr (Or.inl rfl)
    · exact Or.inr (Or.inr rfl)
  · rw [← hedge]
    exact edge_link h₂ hsymm (h₂.live_of_slot hi) (h₂.live_of_slot hj) side a b

lemma WellFormed.add (h : g.WellFormed) : (g.add s t).WellFormed := by
  obtain ⟨i, j, hadd, -, -, -, -, hlive, hedge⟩ := add_spec s t h
  exact h.gain hadd hlive hedge

lemma related_add (h : g.WellFormed) (side : Side) (n m : String) :
    (g.add s t).Related side n m ↔ g.Related side n m ∨ (n, m) = side.orient s t := by
  obtain ⟨i, j, hadd, hext, hi, hj, -, -, hedge⟩ := add_spec s t h
  exact related_gain h hadd hext hi hj hedge side n m

lemma size_add_of_pair (h : g.WellFormed) (hp : g.Pair s t) : (g.add s t).size = g.size := by
  obtain ⟨i, j, -, hext, hi, hj, hsize, -⟩ := add_spec s t h
  obtain ⟨a, b, ha, hb, he⟩ := (pair_iff h s t).mp hp
  obtain rfl := Option.some.inj ((hext _ _ ha).symm.trans hi)
  obtain rfl := Option.some.inj ((hext _ _ hb).symm.trans hj)
  rw [hsize]
  exact if_pos he

lemma size_add_of_not_pair (h : g.WellFormed) (hp : ¬ g.Pair s t) :
    (g.add s t).size = g.size + 1 := by
  obtain ⟨i, j, hadd, hext, hi, hj, hsize, -⟩ := add_spec s t h
  rw [hsize, if_neg]
  intro he
  have he' : g.Edge .dependents i j := he
  have hs := hadd.slot_injective hi (hext _ _ (h.live_of_edge he'))
  have ht := hadd.slot_injective hj (hext _ _ (h.live_right he'))
  exact hp ((pair_iff h s t).mpr ⟨i, j, hs ▸ h.live_of_edge he', ht ▸ h.live_right he', he'⟩)

end Add

section Erase

variable {side : Side} {i j : Nat}

def erased (g : Graph) (side : Side) (i j : Nat) : Graph :=
  g.modifySlot i (·.update (·.erase j) side)

lemma edge_erased (hi : i < g.slots.size) (other : Side) (a b : Nat) :
    (g.erased side i j).Edge other a b ↔
      g.Edge other a b ∧ ¬ (other = side ∧ a = i ∧ b = j) := by
  apply (edge_modifySlot g i a b (·.erase j) side other hi).trans
  by_cases h : a = i ∧ other = side
  · obtain ⟨rfl, rfl⟩ := h
    simp only [and_self, if_true, true_and]
    exact (SlotSet.mem_erase _ _ _).trans and_comm
  · rw [if_neg h]
    refine ⟨fun he => ⟨he, fun hc => h ⟨hc.2.1, hc.1⟩⟩, fun he => he.1⟩

lemma Indexed.erased (h : g.Indexed) (hi : i < g.slots.size) : (g.erased side i j).Indexed := by
  apply h.modifySlot i (·.erase j) side hi
  exact Or.inr fun _ hk => ((SlotSet.mem_erase _ _ _).mp hk).2

end Erase

structure Loosened (g : Graph) (is : List Nat) : Prop extends g.Indexed where
  symm (side : Side) (i j : Nat) : g.Edge side.opposite i j ↔ g.Edge side j i
  used {i : Nat} (h : g.Live i) (hi : i ∉ is) : (g.slot i).isUnused = false

section Loosened

variable {i : Nat} {is : List Nat}

lemma Loosened.wellFormed (h : g.Loosened []) : g.WellFormed :=
  ⟨h.toIndexed, h.symm, fun hl => h.used hl List.not_mem_nil⟩

lemma Loosened.release (h : g.Loosened (i :: is)) : (g.release i).Loosened is where
  toIndexed := h.toIndexed.release i
  symm side a b := by
    rw [edge_release, edge_release]
    exact h.symm side a b
  used {k} hk hki := by
    obtain ⟨hl, hu⟩ := (live_release h.toIndexed i k).mp hk
    have hku : (g.slot k).isUnused = false := by
      by_cases hke : k = i
      · rw [hke]
        exact hu hke
      · exact h.used hl (List.not_mem_cons_of_ne_of_not_mem hke hki)
    obtain ⟨other, j, he⟩ := (isUnused_eq_false_iff g k).mp hku
    rw [isUnused_eq_false_iff]
    exact ⟨other, j, (edge_release i k j other).mpr he⟩

lemma Extends.slot_of_live {g' : Graph} (hext : g'.Extends g) (h : g.Indexed) {n : String}
    {a : Nat} (ha : g'.Live a) (hn : g.slotOf? n = some a) : g'.slotOf? n = some a := by
  rw [h.slot_injective hn (hext _ _ ha)]
  exact ha

lemma related_lose {g' : Graph} (h : g.Indexed) (h' : g'.WellFormed) (hext : g'.Extends g)
    {side : Side} {P : Nat → Nat → Prop}
    (hedge : ∀ a b, g'.Edge side a b ↔ g.Edge side a b ∧ P a b) (n m : String) :
    g'.Related side n m ↔
      ∃ a b, g.slotOf? n = some a ∧ g.slotOf? m = some b ∧ g.Edge side a b ∧ P a b := by
  constructor
  · rintro ⟨a, b, ha, hb, he⟩
    exact ⟨a, b, hext _ _ ha, hext _ _ hb, (hedge a b).mp he⟩
  · rintro ⟨a, b, ha, hb, he⟩
    have he' := (hedge a b).mpr he
    exact ⟨a, b, hext.slot_of_live h (h'.live_of_edge he') ha,
      hext.slot_of_live h (h'.live_right he') hb, he'⟩

end Loosened

/-- Slot `i` has lost its set on one side, and the slots of `rs` still have `i` in their sets on
the other side. -/
structure Detaching (g : Graph) (side : Side) (i : Nat) (rs : List Nat) : Prop
    extends g.Indexed where
  emptied (j : Nat) : ¬ g.Edge side i j
  opposite (a b : Nat) : g.Edge side.opposite a b ↔ g.Edge side b a ∨ b = i ∧ a ∈ rs
  used {k : Nat} (h : g.Live k) (hk : k ≠ i) : (g.slot k).isUnused = false

section Clear

variable {side : Side} {i r : Nat} {rs : List Nat}

def unhooked (g : Graph) (side : Side) (i r : Nat) : Graph :=
  { g.erased side.opposite r i with size := g.size - 1 }

lemma detach_eq : g.detach side i r = (g.unhooked side i r).release r := rfl

lemma edge_unhooked (hr : r < g.slots.size) (other : Side) (a b : Nat) :
    (g.unhooked side i r).Edge other a b ↔
      g.Edge other a b ∧ ¬ (other = side.opposite ∧ a = r ∧ b = i) := edge_erased hr other a b

lemma Indexed.unhooked (h : g.Indexed) (hr : r < g.slots.size) :
    (g.unhooked side i r).Indexed := (h.erased hr).resize _

lemma Detaching.step (h : g.Detaching side i (r :: rs)) (hr : r ∉ rs) :
    (g.detach side i r).Detaching side i rs ∧ (g.detach side i r).Extends g ∧
      ∀ a b, (g.detach side i r).Edge side a b ↔ g.Edge side a b := by
  have hri : g.Edge side.opposite r i := (h.opposite r i).mpr (Or.inr ⟨rfl, List.mem_cons_self⟩)
  have hlt := h.slot_lt_of_edge hri
  have hu : (g.unhooked side i r).Indexed := h.toIndexed.unhooked hlt
  have hedge (other : Side) (a b : Nat) : (g.detach side i r).Edge other a b ↔
      g.Edge other a b ∧ ¬ (other = side.opposite ∧ a = r ∧ b = i) := by
    rw [detach_eq, edge_release, edge_unhooked hlt]
  have hside (a b : Nat) : (g.detach side i r).Edge side a b ↔ g.Edge side a b := by
    rw [hedge]
    exact and_iff_left fun hc => side.opposite_ne hc.1.symm
  have hext : (g.detach side i r).Extends g := by
    intro n k hk
    exact release_extends hu r n k hk
  -- a slot is released only if its name is in no pair, so that the others stay in use
  refine ⟨⟨hu.release r, fun j => ?_, fun a b => ?_, fun {k} hk hki => ?_⟩, hext, hside⟩
  · rw [hside]
    exact h.emptied j
  · rw [hedge, hside, h.opposite]
    constructor
    · rintro ⟨he | ⟨hb, ha⟩, hne⟩
      · exact Or.inl he
      · refine Or.inr ⟨hb, (List.mem_cons.mp ha).resolve_left fun har => hne ⟨rfl, har, hb⟩⟩
    · rintro (he | ⟨hb, ha⟩)
      · refine ⟨Or.inl he, ?_⟩
        rintro ⟨-, -, rfl⟩
        exact h.emptied a he
      · refine ⟨Or.inr ⟨hb, List.mem_cons_of_mem r ha⟩, ?_⟩
        rintro ⟨-, rfl, -⟩
        exact hr ha
  · rw [isUnused_eq_false_iff]
    obtain ⟨hku, hkr⟩ := (live_release hu r k).mp hk
    by_cases hke : k = r
    · subst hke
      obtain ⟨other, j, he⟩ := (isUnused_eq_false_iff _ k).mp (hkr rfl)
      exact ⟨other, j, (edge_release k k j other).mpr he⟩
    · have hkg := h.used (h.live_of_slot (hext _ _ hk)) hki
      obtain ⟨other, j, he⟩ := (isUnused_eq_false_iff g k).mp hkg
      exact ⟨other, j, (hedge other k j).mpr ⟨he, fun hc => hke hc.2.1⟩⟩

lemma Detaching.fold (hrs : rs.Nodup) (h : g.Detaching side i rs) :
    (rs.foldl (detach side i) g).Detaching side i [] ∧ (rs.foldl (detach side i) g).Extends g ∧
      ∀ a b, (rs.foldl (detach side i) g).Edge side a b ↔ g.Edge side a b := by
  induction rs generalizing g with
  | nil => exact ⟨h, Extends.refl g, fun a b => Iff.rfl⟩
  | cons r rs ih =>
    obtain ⟨hr, hrs⟩ := List.nodup_cons.mp hrs
    obtain ⟨h', hext, hedge⟩ := h.step hr
    obtain ⟨h'', hext', hedge'⟩ := ih hrs h'
    exact ⟨h'', hext'.trans hext, fun a b => (hedge' a b).trans (hedge a b)⟩

def emptied (g : Graph) (side : Side) (i : Nat) : Graph :=
  g.modifySlot i (·.update (fun _ => .empty) side)

lemma edge_emptied (hi : i < g.slots.size) (other : Side) (a b : Nat) :
    (g.emptied side i).Edge other a b ↔ g.Edge other a b ∧ ¬ (a = i ∧ other = side) := by
  apply (edge_modifySlot g i a b (fun _ => .empty) side other hi).trans
  split
  · rename_i hc
    exact iff_of_false (SlotSet.not_mem_empty b) fun he => he.2 hc
  · rename_i hc
    exact (and_iff_left hc).symm

lemma WellFormed.emptied (h : g.WellFormed) (hi : i < g.slots.size) :
    (g.emptied side i).Detaching side i ((g.slot i).neighbours side).toList where
  toIndexed := h.toIndexed.modifySlot i (fun _ => .empty) side hi
    (Or.inr fun j hj => (SlotSet.not_mem_empty j hj).elim)
  emptied j := by
    rw [edge_emptied hi]
    exact fun he => he.2 ⟨rfl, rfl⟩
  opposite a b := by
    have hns : a ∈ ((g.slot i).neighbours side).toList ↔ g.Edge side i a := Iff.rfl
    rw [edge_emptied hi, edge_emptied hi, h.symm, hns]
    have hne := side.opposite_ne
    by_cases hb : b = i <;> simp [hb, hne]
  used {k} hk hki := by
    have hl : g.Live k := h.live_of_slot hk
    obtain ⟨other, j, he⟩ := (isUnused_eq_false_iff g k).mp (h.used hl)
    rw [isUnused_eq_false_iff]
    exact ⟨other, j, (edge_emptied hi other k j).mpr ⟨he, fun hc => hki hc.1⟩⟩

lemma Detaching.loosened (h : g.Detaching side i []) : g.Loosened [i] where
  toIndexed := h.toIndexed
  symm other a b := by
    have hopposite (a b : Nat) : g.Edge side.opposite a b ↔ g.Edge side b a := by
      rw [h.opposite]
      exact or_iff_left fun hc => List.not_mem_nil hc.2
    rcases side.eq_or_eq_opposite other with rfl | rfl
    · exact hopposite a b
    · rw [Side.opposite_opposite]
      exact (hopposite b a).symm
  used hk hki := h.used hk fun he => hki (List.mem_singleton.mpr he)

lemma clear_of_unknown {name : String} (hn : g.slotOf? name = none) : g.clear side name = g := by
  simp only [clear, hn]

lemma clear_of_known {name : String} (hn : g.slotOf? name = some i) :
    g.clear side name =
      (((g.slot i).neighbours side).toList.foldl (detach side i) (g.emptied side i)).release i := by
  simp only [clear, hn, Graph.emptied]

lemma WellFormed.clear (h : g.WellFormed) (side : Side) (name : String) :
    (g.clear side name).WellFormed := by
  cases hn : g.slotOf? name with
  | none =>
    rw [clear_of_unknown hn]
    exact h
  | some i =>
    rw [clear_of_known hn]
    have hd : (g.emptied side i).Detaching side i ((g.slot i).neighbours side).toList :=
      h.emptied (h.slot_lt hn)
    exact (hd.fold (SlotSet.nodup _)).1.loosened.release.wellFormed

lemma related_clear (h : g.WellFormed) (side : Side) (name n m : String) :
    (g.clear side name).Related side n m ↔ g.Related side n m ∧ n ≠ name := by
  cases hn : g.slotOf? name with
  | none =>
    rw [clear_of_unknown hn]
    refine (and_iff_left_of_imp ?_).symm
    rintro ⟨i, j, hi, -, -⟩ rfl
    cases hi.symm.trans hn
  | some i =>
    have hlt := h.slot_lt hn
    have hd : (g.emptied side i).Detaching side i ((g.slot i).neighbours side).toList :=
      h.emptied hlt
    obtain ⟨hd', hext', hedge'⟩ := hd.fold (SlotSet.nodup _)
    have h' := h.clear side name
    have hext : (g.clear side name).Extends g := by
      rw [clear_of_known hn]
      exact (release_extends hd'.toIndexed i).trans hext'
    have hedge (a b : Nat) : (g.clear side name).Edge side a b ↔ g.Edge side a b ∧ a ≠ i := by
      rw [clear_of_known hn, edge_release, hedge', edge_emptied hlt]
      simp
    rw [related_lose h.toIndexed h' hext hedge]
    constructor
    · rintro ⟨a, b, ha, hb, he, hai⟩
      refine ⟨⟨a, b, ha, hb, he⟩, ?_⟩
      rintro rfl
      exact hai (Option.some.inj (ha.symm.trans hn))
    · rintro ⟨⟨a, b, ha, hb, he⟩, hne⟩
      refine ⟨a, b, ha, hb, he, ?_⟩
      rintro rfl
      exact hne (h.slot_injective ha hn)

end Clear

section Replace

variable (h : g.WellFormed) (t : String) (ss : List String)
include h

lemma add_all : (ss.foldl (fun g s => g.add s t) g).WellFormed ∧ ∀ a b,
    (ss.foldl (fun g s => g.add s t) g).Related .dependees b a ↔
      g.Related .dependees b a ∨ b = t ∧ a ∈ ss := by
  induction ss generalizing g with
  | nil => exact ⟨h, fun a b => by simp⟩
  | cons s ss ih =>
    obtain ⟨h', hrel⟩ := ih (h.add s t)
    refine ⟨h', fun a b => (hrel a b).trans ?_⟩
    rw [related_add s t h, Side.orient, Prod.mk.injEq, List.mem_cons, or_assoc]
    apply or_congr_right
    rw [and_or_left]

lemma WellFormed.replaceDependees : (g.replaceDependees t ss).WellFormed :=
  (add_all (h.clear .dependees t) t ss).1

theorem pair_replaceDependees (a b : String) : (g.replaceDependees t ss).Pair a b ↔
    if b = t then a ∈ ss else g.Pair a b := by
  have h' := h.replaceDependees t ss
  have hrel : (g.replaceDependees t ss).Related .dependees b a ↔ _ :=
    (add_all (h.clear .dependees t) t ss).2 a b
  rw [pair_iff h', pair_iff h, ← related_opposite h' .dependents, ← related_opposite h .dependents]
  apply hrel.trans
  rw [related_clear h]
  split
  · rename_i hb
    simp [hb]
  · rename_i hb
    simp only [hb, ne_eq, not_false_eq_true, and_true, false_and, or_false]
    rfl

end Replace

end Graph

end Spreadsheet
