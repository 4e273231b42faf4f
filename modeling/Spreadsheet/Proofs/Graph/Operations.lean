import Mathlib
import Spreadsheet.Proofs.Graph.Pairs

namespace Spreadsheet.Graph

inductive Operation where
  | add (s t : String)
  | remove (s t : String)
  | replaceDependents (s : String) (ts : List String)
  | replaceDependees (t : String) (ss : List String)

def perform (g : Graph) : Operation → Graph
  | .add s t => g.add s t
  | .remove s t => g.remove s t
  | .replaceDependents s ts => g.replaceDependents s ts
  | .replaceDependees t ss => g.replaceDependees t ss

def run (ops : List Operation) : Graph := ops.foldl perform .empty

abbrev PairSet := Finset (String × String)

def PairSet.perform (p : PairSet) : Operation → PairSet
  | .add s t => insert (s, t) p
  | .remove s t => p.erase (s, t)
  | .replaceDependents s ts => ts.foldl (fun p t => insert (s, t) p) (p.filter fun e => e.1 ≠ s)
  | .replaceDependees t ss => ss.foldl (fun p s => insert (s, t) p) (p.filter fun e => e.2 ≠ t)

def PairSet.run (ops : List Operation) : PairSet := ops.foldl PairSet.perform ∅

def PairSet.names (p : PairSet) : Finset String := p.image Prod.fst ∪ p.image Prod.snd

variable {g : Graph}

section Remove

variable {i j : Nat} {s t : String}

lemma size_release (g : Graph) (i : Nat) : (g.release i).size = g.size := by
  rw [release]
  split <;> rfl

def unlinked (g : Graph) (i j : Nat) : Graph :=
  { (g.erased .dependents i j).erased .dependees j i with size := g.size - 1 }

lemma unlink_of_edge (he : g.Edge .dependents i j) :
    g.unlink i j = ((g.unlinked i j).release i).release j := if_pos he

section Unlinked

variable (h : g.WellFormed) (he : g.Edge .dependents i j)
include h he

lemma slot_lt_erased : j < (g.erased .dependents i j).slots.size := by
  rw [erased, modifySlot, Array.size_modify]
  exact h.slot_lt (h.live_right he)

lemma edge_unlinked (side : Side) (a b : Nat) :
    (g.unlinked i j).Edge side a b ↔ g.Edge side a b ∧ (a, b) ≠ side.orient i j := by
  apply (edge_erased (slot_lt_erased h he) side a b).trans
  rw [edge_erased (h.slot_lt_of_edge he)]
  cases side <;> simp [Side.orient, Prod.ext_iff]

lemma loosened_unlinked : (g.unlinked i j).Loosened [i, j] where
  toIndexed :=
    ((h.toIndexed.erased (h.slot_lt_of_edge he)).erased (slot_lt_erased h he)).resize _
  symm side a b := by
    rw [edge_unlinked h he, edge_unlinked h he, h.symm, Side.orient_opposite]
    apply and_congr_right
    intro _
    cases side <;> simp [Side.orient, and_comm]
  used {k} hk hkij := by
    have hl : g.Live k := h.live_of_slot hk
    obtain ⟨side, l, hkl⟩ := (isUnused_eq_false_iff g k).mp (h.used hl)
    rw [isUnused_eq_false_iff]
    refine ⟨side, l, (edge_unlinked h he side k l).mpr ⟨hkl, ?_⟩⟩
    intro heq
    cases side with
    | dependents => exact hkij ((Prod.mk.inj heq).1 ▸ List.mem_cons_self)
    | dependees =>
      exact hkij ((Prod.mk.inj heq).1 ▸ List.mem_cons_of_mem i List.mem_cons_self)

lemma unlink_spec : (g.unlink i j).WellFormed ∧ (g.unlink i j).Extends g ∧
    (g.unlink i j).size = g.size - 1 ∧
    ∀ side a b, (g.unlink i j).Edge side a b ↔ g.Edge side a b ∧ (a, b) ≠ side.orient i j := by
  have hl := loosened_unlinked h he
  rw [unlink_of_edge he]
  refine ⟨hl.release.release.wellFormed, fun n k hk => ?_, ?_, fun side a b => ?_⟩
  · exact release_extends hl.toIndexed i n k (release_extends hl.release.toIndexed j n k hk)
  · rw [size_release, size_release]
    rfl
  · rw [edge_release, edge_release, edge_unlinked h he]

end Unlinked

variable (h : g.WellFormed)
include h

lemma remove_of_not_pair (hp : ¬ g.Pair s t) : g.remove s t = g := by
  rw [remove]
  split
  · rename_i i j hi hj
    rw [unlink, if_neg]
    exact fun he => hp ((pair_iff h s t).mpr ⟨i, j, hi, hj, he⟩)
  · rfl

lemma remove_of_pair (hp : g.Pair s t) : (g.remove s t).WellFormed ∧
    (g.remove s t).size = g.size - 1 ∧
    ∀ a b, (g.remove s t).Pair a b ↔ g.Pair a b ∧ (a, b) ≠ (s, t) := by
  obtain ⟨i, j, hi, hj, he⟩ := (pair_iff h s t).mp hp
  have hremove : g.remove s t = g.unlink i j := by
    rw [remove, hi, hj]
  obtain ⟨hu, hext, hsize, hedge⟩ := unlink_spec h he
  rw [hremove]
  refine ⟨hu, hsize, fun a b => ?_⟩
  rw [pair_iff hu, pair_iff h, related_lose h.toIndexed hu hext (hedge .dependents)]
  constructor
  · rintro ⟨k, l, hk, hl, hkl, hne⟩
    refine ⟨⟨k, l, hk, hl, hkl⟩, ?_⟩
    rintro hab
    obtain ⟨rfl, rfl⟩ := Prod.mk.inj hab
    rw [Option.some.inj (hk.symm.trans hi), Option.some.inj (hl.symm.trans hj)] at hne
    exact hne rfl
  · rintro ⟨⟨k, l, hk, hl, hkl⟩, hne⟩
    refine ⟨k, l, hk, hl, hkl, ?_⟩
    rintro hij
    obtain ⟨rfl, rfl⟩ := Prod.mk.inj hij
    rw [h.slot_injective hk hi, h.slot_injective hl hj] at hne
    exact hne rfl

end Remove

section Size

lemma size_detach_all (side : Side) (i : Nat) (rs : List Nat) (g : Graph) :
    (rs.foldl (detach side i) g).size = g.size - rs.length := by
  induction rs generalizing g with
  | nil => rfl
  | cons r rs ih =>
    rw [List.foldl_cons, ih, detach_eq, size_release, List.length_cons, Nat.sub_add_eq,
      Nat.sub_right_comm]
    rfl

lemma size_clear (g : Graph) (side : Side) (name : String) :
    (g.clear side name).size = g.size - (g.neighbourSlots side name).length := by
  cases hn : g.slotOf? name with
  | none => simp [clear_of_unknown hn, neighbourSlots, hn]
  | some i =>
    rw [clear_of_known hn, size_release, size_detach_all, neighbourSlots, hn]
    rfl

lemma pair_iff_related (h : g.WellFormed) (side : Side) (a b : String) :
    g.Pair a b ↔ g.Related side (side.orient a b).1 (side.orient a b).2 := by
  rw [pair_iff h]
  cases side with
  | dependents => exact Iff.rfl
  | dependees => exact (related_opposite h .dependents b a).symm

end Size

lemma mem_keys (g : Graph) (n : String) :
    n ∈ g.index.keys.toFinset ↔ (g.slotOf? n).isSome = true := by
  rw [List.mem_toFinset, Std.TreeMap.mem_keys, Std.TreeMap.mem_iff_isSome_getElem?]
  rfl

lemma card_keys (g : Graph) : g.index.keys.toFinset.card = g.nodeCount := by
  have hnodup : g.index.keys.Nodup := Std.TreeMap.nodup_keys
  rw [List.toFinset_card_of_nodup hnodup, Std.TreeMap.length_keys, nodeCount]

structure Represents (g : Graph) (p : PairSet) : Prop extends g.WellFormed where
  pair (s t : String) : g.Pair s t ↔ (s, t) ∈ p
  size : g.size = p.card

namespace Represents

variable {p : PairSet}

lemma empty : Represents .empty ∅ := by
  refine ⟨wellFormed_empty, fun s t => ?_, rfl⟩
  exact iff_of_false (not_pair_empty s t) (Finset.notMem_empty _)

variable (h : Represents g p)
include h

lemma add (s t : String) : Represents (g.add s t) (insert (s, t) p) where
  toWellFormed := h.toWellFormed.add s t
  pair a b := by
    rw [pair_iff (h.toWellFormed.add s t), related_add s t h.toWellFormed,
      ← pair_iff h.toWellFormed, h.pair, Finset.mem_insert, or_comm]
    rfl
  size := by
    by_cases hp : (s, t) ∈ p
    · rw [size_add_of_pair s t h.toWellFormed ((h.pair s t).mpr hp), h.size,
        Finset.insert_eq_of_mem hp]
    · rw [size_add_of_not_pair s t h.toWellFormed (mt (h.pair s t).mp hp), h.size,
        Finset.card_insert_of_notMem hp]

lemma remove (s t : String) : Represents (g.remove s t) (p.erase (s, t)) := by
  by_cases hp : g.Pair s t
  · obtain ⟨hw, hsize, hpair⟩ := remove_of_pair h.toWellFormed hp
    refine ⟨hw, fun a b => ?_, ?_⟩
    · rw [hpair, h.pair, Finset.mem_erase, and_comm]
    · rw [hsize, h.size, Finset.card_erase_of_mem ((h.pair s t).mp hp)]
  · rw [remove_of_not_pair h.toWellFormed hp, Finset.erase_eq_of_notMem (mt (h.pair s t).mpr hp)]
    exact h

lemma length_neighbours (side : Side) (n : String) : (g.neighbourSlots side n).length =
    (p.filter fun e => (side.orient e.1 e.2).1 = n).card := by
  have hfilter : (p.filter fun e => (side.orient e.1 e.2).1 = n) =
      ((g.neighbourSlots side n).map g.nameOf).toFinset.image (side.orient n) := by
    ext ⟨a, b⟩
    rw [Finset.mem_filter, Finset.mem_image, ← h.pair, pair_iff_related h.toWellFormed side]
    constructor
    · rintro ⟨hr, rfl⟩
      exact ⟨_, List.mem_toFinset.mpr ((mem_neighbours_iff h.toWellFormed side _ _).mpr hr),
        side.orient_orient a b⟩
    · rintro ⟨m, hm, hab⟩
      have hr := (mem_neighbours_iff h.toWellFormed side n m).mp (List.mem_toFinset.mp hm)
      have horient : side.orient a b = (n, m) := by
        rw [← side.orient_orient n m, hab]
      dsimp only
      rw [horient]
      exact ⟨hr, rfl⟩
  have hinj : Function.Injective (side.orient n) := by
    intro a b hab
    cases side with
    | dependents => exact (Prod.mk.inj hab).2
    | dependees => exact (Prod.mk.inj hab).1
  rw [hfilter, Finset.card_image_of_injective _ hinj,
    List.toFinset_card_of_nodup (nodup_neighbours h.toWellFormed side n), List.length_map]

lemma clear (side : Side) (n : String) :
    Represents (g.clear side n) (p.filter fun e => (side.orient e.1 e.2).1 ≠ n) where
  toWellFormed := h.toWellFormed.clear side n
  pair a b := by
    rw [pair_iff_related (h.toWellFormed.clear side n) side, related_clear h.toWellFormed,
      ← pair_iff_related h.toWellFormed side, h.pair, Finset.mem_filter]
  size := by
    rw [size_clear, h.size, h.length_neighbours]
    have hcard : (p.filter fun e => (side.orient e.1 e.2).1 = n).card +
        (p.filter fun e => (side.orient e.1 e.2).1 ≠ n).card = p.card :=
      Finset.card_filter_add_card_filter_not _
    omega

omit h in
lemma foldl {α : Type} {f : Graph → α → Graph} {f' : PairSet → α → PairSet}
    (hstep : ∀ {g p} a, Represents g p → Represents (f g a) (f' p a)) (as : List α)
    {g : Graph} {p : PairSet} (h : Represents g p) : Represents (as.foldl f g) (as.foldl f' p) := by
  induction as generalizing g p with
  | nil => exact h
  | cons a as ih => exact ih (hstep a h)

lemma perform (op : Operation) : Represents (g.perform op) (p.perform op) := by
  cases op with
  | add s t => exact h.add s t
  | remove s t => exact h.remove s t
  | replaceDependents s ts => exact (h.clear .dependents s).foldl (fun t h => h.add s t) ts
  | replaceDependees t ss => exact (h.clear .dependees t).foldl (fun s h => h.add s t) ss

omit h in
lemma run (ops : List Operation) : Represents (Graph.run ops) (PairSet.run ops) :=
  empty.foldl (fun op h => h.perform op) ops

lemma mem_dependents (s t : String) : t ∈ g.dependents s ↔ (s, t) ∈ p := h.pair s t

lemma mem_dependees (s t : String) : s ∈ g.dependees t ↔ (s, t) ∈ p :=
  (mem_dependees_iff h.toWellFormed s t).trans (h.pair s t)

lemma hasDependents_iff (s : String) : g.hasDependents s = true ↔ ∃ t, (s, t) ∈ p := by
  apply (neighbours_nonempty_iff h.toWellFormed .dependents s).trans
  apply exists_congr
  intro t
  rw [← h.pair, pair_iff_related h.toWellFormed .dependents]
  rfl

lemma hasDependees_iff (t : String) : g.hasDependees t = true ↔ ∃ s, (s, t) ∈ p := by
  apply (neighbours_nonempty_iff h.toWellFormed .dependees t).trans
  apply exists_congr
  intro s
  rw [← h.pair, pair_iff_related h.toWellFormed .dependees]
  rfl

lemma isEmpty_iff : g.isEmpty = true ↔ p = ∅ := by
  rw [isEmpty, beq_iff_eq, h.size, Finset.card_eq_zero]

lemma isSome_slotOf?_iff (n : String) : (g.slotOf? n).isSome = true ↔ n ∈ p.names := by
  apply (knows_iff h.toWellFormed n).trans
  simp only [h.pair, PairSet.names, Finset.mem_union, Finset.mem_image, Prod.exists, exists_or]
  simp

lemma names_eq : p.names = g.index.keys.toFinset := by
  ext n
  rw [← h.isSome_slotOf?_iff, mem_keys]

lemma nodeCount_eq : g.nodeCount = p.names.card := by
  rw [h.names_eq, card_keys]

end Represents

theorem run_refines_pairs (ops : List Operation) :
    (∀ s, ((run ops).dependents s).Nodup ∧
      ∀ t, t ∈ (run ops).dependents s ↔ (s, t) ∈ PairSet.run ops) ∧
    (∀ t, ((run ops).dependees t).Nodup ∧
      ∀ s, s ∈ (run ops).dependees t ↔ (s, t) ∈ PairSet.run ops) ∧
    (∀ s, (run ops).hasDependents s = true ↔ ∃ t, (s, t) ∈ PairSet.run ops) ∧
    (∀ t, (run ops).hasDependees t = true ↔ ∃ s, (s, t) ∈ PairSet.run ops) ∧
    (∀ t, (run ops).dependeeCount t = ((PairSet.run ops).filter fun e => e.2 = t).card) ∧
    (run ops).size = (PairSet.run ops).card ∧
    ((run ops).isEmpty = true ↔ PairSet.run ops = ∅) ∧
    (∀ n, ((run ops).slotOf? n).isSome = true ↔ n ∈ (PairSet.run ops).names) ∧
    (run ops).nodeCount = (PairSet.run ops).names.card := by
  have h := Represents.run ops
  refine ⟨fun s => ⟨nodup_neighbours h.toWellFormed .dependents s, h.mem_dependents s⟩,
    fun t => ⟨nodup_neighbours h.toWellFormed .dependees t, fun s => h.mem_dependees s t⟩,
    h.hasDependents_iff, h.hasDependees_iff, fun t => ?_, h.size, h.isEmpty_iff,
    h.isSome_slotOf?_iff, h.nodeCount_eq⟩
  exact h.length_neighbours .dependees t

end Spreadsheet.Graph
