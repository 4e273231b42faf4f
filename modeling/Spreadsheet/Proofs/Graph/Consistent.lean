import Spreadsheet.Proofs.Graph.Checked

namespace Spreadsheet

namespace Arena

def set (a : Arena) (side : Side) (i : Nat) : SlotSet := (a.sets side).getD i .empty

structure Free (a : Arena) (i : Nat) : Prop where
  count : a.free.count i = 1
  set_eq (side : Side) : a.set side i = .empty
  not_indexed (n : String) : a.index[n]? ≠ some i

structure Live (a : Arena) (i : Nat) : Prop where
  not_mem_free : i ∉ a.free
  indexed : ∃ n, a.names[i]? = some n ∧ ∀ m, a.index[m]? = some i ↔ m = n
  used : ∃ side j, j ∈ a.set side i

structure Consistent (a : Arena) : Prop where
  size_dependents : a.dependents.size = a.names.size
  size_dependees : a.dependees.size = a.names.size
  free_or_live {i : Nat} (h : i < a.names.size) : a.Free i ∨ a.Live i
  lt_of_mem_free {i : Nat} (h : i ∈ a.free) : i < a.names.size
  live_of_index {n : String} {i : Nat} (h : a.index[n]? = some i) : a.Live i
  live_of_mem {side : Side} {i j : Nat} (h : j ∈ a.set side i) : a.Live i ∧ a.Live j
  symm (i j : Nat) : j ∈ a.set .dependents i ↔ i ∈ a.set .dependees j
  sum_size (side : Side) : ∑ i ∈ Finset.range a.names.size, (a.set side i).size = a.size

end Arena

namespace Graph

variable {g : Graph}

lemma set_arena (g : Graph) (side : Side) (i : Nat) :
    g.arena.set side i = (g.slot i).neighbours side := by
  rw [Arena.set, sets_arena, Array.getD_eq_getD_getElem?, Array.getElem?_map, slot_eq]
  cases g.slots[i]? with
  | none => cases side <;> rfl
  | some slot => rfl

lemma mem_set_arena (g : Graph) (side : Side) (i j : Nat) :
    j ∈ g.arena.set side i ↔ g.Edge side i j := by
  rw [set_arena, Edge]

lemma WellFormed.live_arena (h : g.WellFormed) {i : Nat} (hi : g.Live i) : g.arena.Live i where
  not_mem_free hfree := ((h.mem_free i).mp hfree).2 hi
  indexed := by
    refine ⟨g.nameOf i, ?_, fun m => ⟨fun hm => (h.nameOf_slot hm).symm, ?_⟩⟩
    · rw [arena, Array.getElem?_map, getElem?_slots (h.slot_lt hi)]
      rfl
    · rintro rfl
      exact hi
  used := by
    obtain ⟨side, j, he⟩ := (isUnused_eq_false_iff g i).mp (h.used hi)
    exact ⟨side, j, (mem_set_arena g side i j).mpr he⟩

lemma Indexed.set_of_dead (h : g.Indexed) (side : Side) {i : Nat} (hi : ¬ g.Live i) :
    g.arena.set side i = .empty := by
  apply SlotSet.ext
  apply List.eq_nil_iff_forall_not_mem.mpr
  intro j hj
  exact hi (h.live_of_edge ((mem_set_arena g side i j).mp hj))

lemma Indexed.free_arena (h : g.Indexed) {i : Nat} (hi : ¬ g.Live i) (hlt : i < g.slots.size) :
    g.arena.Free i where
  count := List.count_eq_one_of_mem h.free_nodup ((h.mem_free i).mpr ⟨hlt, hi⟩)
  set_eq side := h.set_of_dead side hi
  not_indexed _ hn := hi (h.live_of_slot hn)

lemma Represents.consistent_arena {p : PairSet} (h : Represents g p) : g.arena.Consistent where
  size_dependents := by rw [arena, Array.size_map, Array.size_map]
  size_dependees := by rw [arena, Array.size_map, Array.size_map]
  free_or_live {i} hi := by
    rw [arena, Array.size_map] at hi
    by_cases hl : g.Live i
    · exact Or.inr (h.live_arena hl)
    · exact Or.inl (h.toIndexed.free_arena hl hi)
  lt_of_mem_free {i} hi := by
    rw [arena, Array.size_map]
    exact ((h.mem_free i).mp hi).1
  live_of_index hn := h.live_arena (h.live_of_slot hn)
  live_of_mem {side i j} hj := by
    have he := (mem_set_arena g side i j).mp hj
    exact ⟨h.live_arena (h.live_of_edge he), h.live_arena (h.live_right he)⟩
  symm i j := by
    rw [mem_set_arena, mem_set_arena]
    exact (h.symm .dependents j i).symm
  sum_size side := by
    have hsize : g.arena.names.size = g.slotCount := Array.size_map
    have hsub : g.liveSlots ⊆ Finset.range g.slotCount := Finset.filter_subset _ _
    have hsum := h.sum_neighbours side
    rw [hsize, ← Finset.sum_subset hsub]
    · simp only [set_arena]
      exact hsum
    · intro i _ hi
      rw [h.toIndexed.set_of_dead side (mt (mem_liveSlots h.toIndexed i).mpr hi)]
      rfl

section Queries

variable (h : g.WellFormed)
include h

lemma neighbourSet_arena (side : Side) (n : String) : ∃ set : SlotSet,
    g.arena.neighbourSet side n = .ok set ∧ set.toList = g.neighbourSlots side n := by
  have hindex : g.arena.index[n]? = g.slotOf? n := rfl
  rw [Arena.neighbourSet, neighbourSlots, hindex]
  cases hn : g.slotOf? n with
  | none => exact ⟨.empty, rfl, rfl⟩
  | some i =>
    refine ⟨(g.slot i).neighbours side, ?_, rfl⟩
    dsimp only
    rw [sets_arena, read_map _ (h.slot_lt hn)]

lemma neighbours_arena (side : Side) (n : String) :
    g.arena.neighbours side n = .ok ((g.neighbourSlots side n).map g.nameOf) := by
  obtain ⟨set, hset, hslots⟩ := neighbourSet_arena h side n
  rw [Arena.neighbours, hset, Except.ok_bind, hslots]
  apply mapM_nameOf
  intro j hj
  rw [neighbourSlots] at hj
  cases hn : g.slotOf? n with
  | none =>
    rw [hn] at hj
    cases hj
  | some i =>
    rw [hn] at hj
    exact h.slot_lt (h.live_right hj)

lemma hasNeighbours_arena (side : Side) (n : String) :
    g.arena.hasNeighbours side n = .ok !(g.neighbourSlots side n).isEmpty := by
  obtain ⟨set, hset, hslots⟩ := neighbourSet_arena h side n
  rw [Arena.hasNeighbours, hset, Except.ok_bind, SlotSet.isEmpty, hslots]
  rfl

lemma neighbourCount_arena (side : Side) (n : String) :
    g.arena.neighbourCount side n = .ok (g.neighbourSlots side n).length := by
  obtain ⟨set, hset, hslots⟩ := neighbourSet_arena h side n
  rw [Arena.neighbourCount, hset, Except.ok_bind, SlotSet.size, hslots]
  rfl

end Queries

lemma slotCount_mono {done ops : List Operation} (h : done <+: ops) :
    (run done).slotCount ≤ (run ops).slotCount := by
  obtain ⟨peak, hpeak, hcount⟩ := (isGreatest_slotCount done).1
  rw [← hcount]
  exact (isGreatest_slotCount ops).2 ⟨peak, hpeak.trans h, rfl⟩

theorem run_never_faults (ops : List Operation) :
    Arena.run ops = .ok (run ops).arena ∧
    (run ops).arena.Consistent ∧
    (∀ side n,
      (run ops).arena.neighbours side n =
        .ok (((run ops).neighbourSlots side n).map (run ops).nameOf) ∧
      (run ops).arena.hasNeighbours side n = .ok !((run ops).neighbourSlots side n).isEmpty ∧
      (run ops).arena.neighbourCount side n = .ok ((run ops).neighbourSlots side n).length) ∧
    (∀ start, (run ops).arena.recalculationOrder start =
      .ok ((run ops).recalculationOrder start)) ∧
    ∀ done n i, done <+: ops → (run done).slotOf? n = some i →
      ∃ m, (run ops).arena.nameOf i = .ok m := by
  have h := Represents.run ops
  refine ⟨run_arena ops, h.consistent_arena, fun side n => ?_,
    recalculationOrder_arena h.toWellFormed, fun done n i hdone hi => ?_⟩
  · exact ⟨neighbours_arena h.toWellFormed side n, hasNeighbours_arena h.toWellFormed side n,
      neighbourCount_arena h.toWellFormed side n⟩
  · have hlt := ((Represents.run done).slot_lt hi).trans_le (slotCount_mono hdone)
    exact ⟨_, read_map Slot.name hlt⟩

theorem run_never_faults_of_self_pair :
    [.add "A1" "A1"] <+: [.add "A1" "A1", .remove "A1" "A1", Operation.add "" "B1"] ∧
    (run [.add "A1" "A1"]).slotOf? "A1" = some 0 ∧
    ∃ m, (run [.add "A1" "A1", .remove "A1" "A1", .add "" "B1"]).arena.nameOf 0 = .ok m := by
  have hdone : [.add "A1" "A1"] <+: [.add "A1" "A1", .remove "A1" "A1", Operation.add "" "B1"] :=
    ⟨_, rfl⟩
  have hslot : (run [.add "A1" "A1"]).slotOf? "A1" = some 0 := by
    decide +kernel
  exact ⟨hdone, hslot, (run_never_faults _).2.2.2.2 _ _ _ hdone hslot⟩

end Graph

end Spreadsheet
