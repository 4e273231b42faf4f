import Mathlib
import Spreadsheet.Proofs.Graph.Operations
import Spreadsheet.Proofs.Graph.Walk

namespace Spreadsheet

namespace Recalculation

def walkWithin (g : Graph) (marks : Marks) (finished : List Nat) :
    Nat → List Frame → Option (Except (List Nat) (List Nat))
  | _, [] => some (.ok finished)
  | 0, _ :: _ => none
  | n + 1, ⟨i, []⟩ :: stack => walkWithin g (marks.setIfInBounds i .done) (i :: finished) n stack
  | n + 1, ⟨i, j :: pending⟩ :: stack =>
    match marks[j]? with
    | some .unvisited =>
      walkWithin g (marks.setIfInBounds j .onPath) finished n
        (⟨j, (g.slot j).dependents.toList⟩ :: ⟨i, pending⟩ :: stack)
    | some .onPath => some (.error (cyclePath (⟨i, pending⟩ :: stack) j))
    | some .done => walkWithin g marks finished n (⟨i, pending⟩ :: stack)
    | none => none

def turnsAt (g : Graph) (i : Nat) : Nat := (g.slot i).dependents.size + 1

variable {g : Graph} {start : Nat} {marks : Marks} {finished : List Nat} {stack : List Frame}

lemma unvisited_of_set {i j : Nat} {m : Mark} (hm : m ≠ .unvisited)
    (hj : (marks.setIfInBounds i m)[j]? = some .unvisited) :
    j ≠ i ∧ marks[j]? = some .unvisited :=
  (mark_of_set hj).resolve_left fun h => hm h.2

lemma exists_turn {f : Frame} {k n : Nat} (hn : load (f :: stack) + k ≤ n) :
    ∃ m, n = m + 1 ∧ f.pending.length + load stack + k ≤ m := by
  rw [load] at hn
  exact ⟨n - 1, by omega, by omega⟩

theorem walkWithin_eq (hg : g.WellFormed) (h : Walking g start marks finished stack)
    (ahead : Finset Nat) (hahead : ∀ j, g.Live j → marks[j]? = some .unvisited → j ∈ ahead)
    {n : Nat} (hn : load stack + ∑ j ∈ ahead, turnsAt g j ≤ n) :
    walkWithin g marks finished n stack = some (walk g marks finished stack) := by
  -- ahead of the walk is what its stack still holds and the slots that it has not entered; each
  -- turn takes one of these away
  induction h using Walking.induct hg generalizing ahead n with
  | last h =>
    obtain ⟨n, rfl, -⟩ := exists_turn hn
    rw [walk_leave, walkWithin, walkWithin, walk]
  | leave h ih =>
    obtain ⟨n, rfl, hle⟩ := exists_turn hn
    rw [walk_leave, walkWithin]
    apply ih ahead
    · intro j hj hu
      exact hahead j hj (unvisited_of_set (by decide) hu).2
    · simpa using hle
  | @enter _ _ _ j _ _ h hj ih =>
    obtain ⟨n, rfl, hle⟩ := exists_turn hn
    have hlive : g.Live j := hg.live_right (h.trail.covers.pending List.mem_cons_self)
    have hsum := Finset.add_sum_erase ahead (turnsAt g) (hahead j hlive hj)
    have hturns : turnsAt g j = (g.slot j).dependents.toList.length + 1 := rfl
    rw [walk_enter _ _ _ _ _ hj, walkWithin, hj]
    apply ih (ahead.erase j)
    · intro k hk hu
      obtain ⟨hkj, hu⟩ := unvisited_of_set (by decide) hu
      exact Finset.mem_erase.mpr ⟨hkj, hahead k hk hu⟩
    · simp only [load, List.length_cons] at hle ⊢
      omega
  | cycle h hj =>
    obtain ⟨n, rfl, -⟩ := exists_turn hn
    rw [walk_cycle _ _ _ _ _ hj, walkWithin, hj]
  | @skip _ _ i _ pending stack h hu hp ih =>
    obtain ⟨n, rfl, hle⟩ := exists_turn hn
    have hrest : load (⟨i, pending⟩ :: stack) + ∑ j ∈ ahead, turnsAt g j ≤ n := by
      simp only [load, List.length_cons] at hle ⊢
      omega
    rw [walk_skip _ _ _ _ _ hu hp, walkWithin, h.marked_done hg hu hp]
    exact ih ahead hahead hrest

end Recalculation

namespace Graph

open Recalculation

def orderWithin (g : Graph) (turns : Nat) (start : String) :
    Option (Except Cycle (List String)) :=
  match g.slotOf? start with
  | none => some (.ok [start])
  | some i =>
    let marks : Marks := (Array.replicate g.slotCount Mark.unvisited).setIfInBounds i .onPath
    match walkWithin g marks [] turns [⟨i, (g.slot i).dependents.toList⟩] with
    | none => none
    | some (.ok order) => some (.ok (order.map g.nameOf))
    | some (.error path) => some (.error ⟨path.map g.nameOf⟩)

instance (g : Graph) : DecidablePred g.Live := fun i =>
  inferInstanceAs (Decidable (g.slotOf? (g.nameOf i) = some i))

def liveSlots (g : Graph) : Finset Nat := (Finset.range g.slotCount).filter g.Live

variable {g : Graph} {p : PairSet}

lemma mem_liveSlots (h : g.Indexed) (i : Nat) : i ∈ g.liveSlots ↔ g.Live i := by
  rw [liveSlots, Finset.mem_filter, Finset.mem_range]
  exact and_iff_right_of_imp fun hi => h.slot_lt hi

lemma Indexed.injOn_nameOf (h : g.Indexed) : Set.InjOn g.nameOf g.liveSlots := by
  intro i hi j hj hij
  have hli := (mem_liveSlots h i).mp hi
  rw [Live, hij] at hli
  exact Option.some.inj (hli.symm.trans ((mem_liveSlots h j).mp hj))

lemma Indexed.image_liveSlots (h : g.Indexed) :
    g.liveSlots.image g.nameOf = g.index.keys.toFinset := by
  ext n
  rw [mem_keys, Option.isSome_iff_exists, Finset.mem_image]
  constructor
  · rintro ⟨i, hi, rfl⟩
    exact ⟨i, (mem_liveSlots h i).mp hi⟩
  · rintro ⟨i, hi⟩
    exact ⟨i, (mem_liveSlots h i).mpr (h.live_of_slot hi), h.nameOf_slot hi⟩

lemma Indexed.card_liveSlots (h : g.Indexed) : g.liveSlots.card = g.nodeCount := by
  rw [← card_keys, ← h.image_liveSlots, Finset.card_image_of_injOn h.injOn_nameOf]

lemma Represents.sum_neighbours (h : Represents g p) (side : Side) :
    ∑ i ∈ g.liveSlots, ((g.slot i).neighbours side).size = g.size := by
  have hsize : p.card = ∑ n ∈ p.names, (p.filter fun e => (side.orient e.1 e.2).1 = n).card := by
    apply Finset.card_eq_sum_card_fiberwise
    intro e he
    cases side with
    | dependents => exact Finset.mem_union_left _ (Finset.mem_image_of_mem Prod.fst he)
    | dependees => exact Finset.mem_union_right _ (Finset.mem_image_of_mem Prod.snd he)
  rw [h.size, hsize, h.names_eq, ← h.toIndexed.image_liveSlots,
    Finset.sum_image h.toIndexed.injOn_nameOf]
  apply Finset.sum_congr rfl
  intro i hi
  have hli := (mem_liveSlots h.toIndexed i).mp hi
  rw [← h.length_neighbours side, neighbourSlots, hli]
  rfl

lemma Represents.sum_turnsAt (h : Represents g p) :
    ∑ i ∈ g.liveSlots, turnsAt g i = g.nodeCount + g.size := by
  have hsum : ∑ i ∈ g.liveSlots, (g.slot i).dependents.size = g.size := h.sum_neighbours .dependents
  simp only [turnsAt]
  rw [Finset.sum_add_distrib, hsum, ← Finset.card_eq_sum_ones, h.toIndexed.card_liveSlots,
    add_comm]

lemma Represents.orderWithin_eq (h : Represents g p) (start : String) :
    g.orderWithin (g.nodeCount + g.size) start = some (g.recalculationOrder start) := by
  rw [orderWithin, recalculationOrder]
  cases hs : g.slotOf? start with
  | none => rfl
  | some i =>
    have hi : g.Live i := h.live_of_slot hs
    have hsum := Finset.add_sum_erase g.liveSlots (turnsAt g)
      ((mem_liveSlots h.toIndexed i).mpr hi)
    have hturns : turnsAt g i = (g.slot i).dependents.toList.length + 1 := rfl
    dsimp only
    rw [walkWithin_eq h.toWellFormed (walking_start h.toWellFormed hi) (g.liveSlots.erase i)]
    · cases walk g _ [] _ <;> rfl
    · intro j hj hu
      exact Finset.mem_erase.mpr
        ⟨(unvisited_of_set (by decide) hu).1, (mem_liveSlots h.toIndexed j).mpr hj⟩
    · rw [← h.sum_turnsAt]
      simp only [load]
      omega

end Graph

end Spreadsheet
