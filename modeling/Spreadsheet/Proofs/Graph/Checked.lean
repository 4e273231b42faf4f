import Mathlib
import Spreadsheet.Graph.Checked
import Spreadsheet.Proofs.Except
import Spreadsheet.Proofs.Graph.Capacity
import Spreadsheet.Proofs.Graph.Order

/-! The graph in arrays never faults. Its operations come to the graph that the unchecked ones come
to: where a slot is read or written the index, a set or the walk leads to it, a pair is left to be
taken away where one is, and a slot that is given up is in use. -/

namespace Spreadsheet

open Checked Recalculation

namespace Graph

variable {g : Graph} {i : Nat}

lemma getElem?_slots (h : i < g.slots.size) : g.slots[i]? = some (g.slot i) := by
  rw [slot_eq, Array.getElem?_eq_getElem h, Option.getD_some]

lemma read_map {β : Type} (f : Slot → β) (h : i < g.slots.size) :
    read (g.slots.map f) i = .ok (f (g.slot i)) := by
  rw [Checked.read, Array.getElem?_map, getElem?_slots h]
  rfl

lemma write_map {β : Type} (f : Slot → β) (m : Slot → Slot) (h : i < g.slots.size) :
    write (g.slots.map f) i (f (m (g.slot i))) = .ok ((g.slots.modify i m).map f) := by
  rw [Checked.write, if_pos (by rwa [Array.size_map])]
  apply congrArg
  apply Array.ext_getElem?
  intro k
  rw [Array.getElem?_setIfInBounds, Array.getElem?_map, Array.getElem?_map,
    Array.getElem?_modify, Array.size_map]
  by_cases hk : i = k
  · subst hk
    rw [getElem?_slots h]
    simp [h]
  · simp [hk]

lemma map_modify {β : Type} (f : Slot → β) (m : Slot → Slot) (hm : ∀ slot, f (m slot) = f slot) :
    (g.slots.modify i m).map f = g.slots.map f := by
  apply Array.ext_getElem?
  intro k
  rw [Array.getElem?_map, Array.getElem?_map, Array.getElem?_modify]
  split
  · cases g.slots[k]? with
    | none => rfl
    | some slot => exact congrArg some (hm slot)
  · rfl

lemma sets_arena (g : Graph) (side : Side) :
    g.arena.sets side = g.slots.map fun slot => slot.neighbours side := by
  cases side <;> rfl

lemma arena_modifySlot (g : Graph) (i : Nat) (f : SlotSet → SlotSet) (side : Side) :
    (g.modifySlot i (·.update f side)).arena = g.arena.withSets
      ((g.slots.modify i (·.update f side)).map fun slot => slot.neighbours side) side := by
  have hname := map_modify (g := g) (i := i) Slot.name (·.update f side) fun _ =>
    Slot.name_update _ _ _
  cases side with
  | dependents =>
    have hother := map_modify (g := g) (i := i) Slot.dependees (·.update f .dependents) fun _ => rfl
    rw [arena, Graph.modifySlot, hname, hother]
    rfl
  | dependees =>
    have hother := map_modify (g := g) (i := i) Slot.dependents (·.update f .dependees) fun _ => rfl
    rw [arena, Graph.modifySlot, hname, hother]
    rfl

lemma update_arena (h : i < g.slots.size) (side : Side) (f : SlotSet → SlotSet) :
    g.arena.update side i f = .ok (g.modifySlot i (·.update f side)).arena := by
  have hwrite := write_map (fun slot => slot.neighbours side) (·.update f side) h
  rw [Slot.neighbours_update, if_pos rfl] at hwrite
  rw [Arena.update, sets_arena, read_map _ h, Except.ok_bind, hwrite, Except.ok_bind,
    arena_modifySlot]
  rfl

lemma lose_arena (h : 0 < g.size) : g.arena.lose = .ok { g with size := g.size - 1 }.arena := by
  cases g with
  | mk slots index free size =>
    cases size with
    | zero => cases h
    | succ size => rfl

lemma read_dependents (h : i < g.slots.size) :
    Checked.read g.arena.dependents i = .ok (g.slot i).dependents := read_map Slot.dependents h

lemma arena_rename (g : Graph) (i : Nat) (name : String) (index : Std.TreeMap String Nat)
    (free : List Nat) : Graph.arena ⟨g.slots.modify i (·.rename name), index, free, g.size⟩ =
      { g.arena with
        names := (g.slots.modify i (·.rename name)).map Slot.name
        index
        free } := by
  have hdependents := map_modify (g := g) (i := i) Slot.dependents (·.rename name) fun _ => rfl
  have hdependees := map_modify (g := g) (i := i) Slot.dependees (·.rename name) fun _ => rfl
  rw [arena, hdependents, hdependees]
  rfl

lemma release_arena (h : g.Indexed) (hi : i < g.slots.size) :
    g.arena.release i = .ok (g.release i).arena := by
  have hname : Checked.read g.arena.names i = .ok (g.nameOf i) := read_map Slot.name hi
  have hdependees : Checked.read g.arena.dependees i = .ok (g.slot i).dependees :=
    read_map Slot.dependees hi
  have hlive : g.arena.index[g.nameOf i]? = some i ↔ g.Live i := Iff.rfl
  rw [Arena.release, hname, Except.ok_bind]
  by_cases hl : g.Live i
  · rw [if_pos (hlive.mpr hl), read_dependents hi, Except.ok_bind, hdependees, Except.ok_bind]
    have hunused : ((g.slot i).dependents.isEmpty && (g.slot i).dependees.isEmpty) =
        (g.slot i).isUnused := rfl
    rw [hunused]
    cases hu : (g.slot i).isUnused with
    | true =>
      have hfree : i ∉ g.arena.free := fun hi => ((h.mem_free i).mp hi).2 hl
      have hwrite : Checked.write g.arena.names i "" = _ := write_map Slot.name (·.rename "") hi
      rw [if_pos rfl, hwrite, Except.ok_bind, if_neg hfree, release_of_unused hl hu, arena_rename]
      rfl
    | false =>
      rw [if_neg Bool.false_ne_true, release_of_used hu]
      rfl
  · rw [if_neg (mt hlive.mp hl), release_of_dead hl]
    rfl

lemma intern_arena (h : g.Indexed) (name : String) :
    g.arena.intern name = .ok ((g.intern name).1.arena, (g.intern name).2) := by
  have hindex : g.arena.index[name]? = g.slotOf? name := rfl
  have hfree : g.arena.free = g.free := rfl
  rw [Arena.intern, hindex]
  cases hn : g.slotOf? name with
  | some i => rw [intern_known g name hn]
  | none =>
    dsimp only
    rw [hfree]
    cases hf : g.free with
    | nil =>
      have hpush : (g.arena.names.push name).size = g.slots.size + 1 := by
        rw [Array.size_push, arena, Array.size_map]
      dsimp only
      rw [intern_new g name hn hf, hpush, Checked.pred, Except.ok_bind, named, arena, arena,
        Array.map_push, Array.map_push, Array.map_push, hf]
      rfl
    | cons i free =>
      have hi := ((h.mem_free i).mp (hf ▸ List.mem_cons_self)).1
      have hwrite : Checked.write g.arena.names i name = _ := write_map Slot.name (·.rename name) hi
      rw [intern_free g name hn hf, named, arena_rename]
      dsimp only
      rw [hwrite, Except.ok_bind]
      rfl

lemma link_arena {j : Nat} (hi : i < g.slots.size) (hj : j < g.slots.size) :
    g.arena.link i j = .ok (g.link i j).arena := by
  have hj' : j < (g.modifySlot i (·.update (·.insert j) .dependents)).slots.size := by
    rwa [modifySlot, Array.size_modify]
  rw [Arena.link, read_dependents hi, Except.ok_bind, link]
  by_cases he : j ∈ (g.slot i).dependents
  · rw [if_pos he, if_pos he]
    rfl
  · rw [if_neg he, if_neg he, update_arena hi, Except.ok_bind, update_arena hj', Except.ok_bind]
    rfl

lemma add_arena (h : g.Indexed) (s t : String) : g.arena.add s t = .ok (g.add s t).arena := by
  have h' := h.intern s
  have hi := (g.intern s).1.extends_intern t s _ (slotOf?_intern_self s)
  rw [Arena.add, intern_arena h, Except.ok_bind]
  dsimp only
  rw [intern_arena h', Except.ok_bind]
  exact link_arena ((h'.intern t).slot_lt hi) ((h'.intern t).slot_lt (slotOf?_intern_self t))

lemma unlink_arena {j : Nat} (h : g.WellFormed) (he : g.Edge .dependents i j) (hs : 0 < g.size) :
    g.arena.unlink i j = .ok (g.unlink i j).arena := by
  have hi := h.slot_lt_of_edge he
  have hj := slot_lt_erased h he
  have hl := loosened_unlinked h he
  have hsize : (g.unlinked i j).slotCount = g.slotCount :=
    Array.size_modify.trans Array.size_modify
  have hsize' := (slotCount_release i (g.unlinked i j)).trans hsize
  have hmem : j ∈ (g.slot i).dependents := he
  have hfirst : g.arena.update .dependents i (·.erase j) = .ok (g.erased .dependents i j).arena :=
    update_arena hi _ _
  have hsecond : (g.erased .dependents i j).arena.update .dependees j (·.erase i) =
    .ok ((g.erased .dependents i j).erased .dependees j i).arena := update_arena hj _ _
  have hthird : ((g.erased .dependents i j).erased .dependees j i).arena.lose =
    .ok (g.unlinked i j).arena := lose_arena hs
  have hfourth := release_arena hl.toIndexed (hi.trans_eq hsize.symm)
  have hfifth := release_arena hl.release.toIndexed
    ((h.slot_lt (h.live_right he)).trans_eq hsize'.symm)
  rw [Arena.unlink, read_dependents hi, Except.ok_bind, if_pos hmem, hfirst, Except.ok_bind,
    hsecond, Except.ok_bind, hthird, Except.ok_bind, hfourth, Except.ok_bind, hfifth,
    unlink_of_edge he]

section Clear

variable {side : Side} {r : Nat} {rs : List Nat}

lemma detach_arena (h : g.Detaching side i (r :: rs)) (hs : 0 < g.size) :
    Arena.detach side i g.arena r = .ok (g.detach side i r).arena := by
  have hri : g.Edge side.opposite r i := (h.opposite r i).mpr (Or.inr ⟨rfl, List.mem_cons_self⟩)
  have hr := h.slot_lt_of_edge hri
  have hsize : (g.unhooked side i r).slotCount = g.slotCount := Array.size_modify
  have hfirst : g.arena.update side.opposite r (·.erase i) =
    .ok (g.erased side.opposite r i).arena := update_arena hr _ _
  have hsecond : (g.erased side.opposite r i).arena.lose = .ok (g.unhooked side i r).arena :=
    lose_arena hs
  have hthird := release_arena (h.toIndexed.unhooked hr) (hr.trans_eq hsize.symm)
  rw [Arena.detach, hfirst, Except.ok_bind, hsecond, Except.ok_bind, hthird, detach_eq]

lemma detach_all_arena (h : g.Detaching side i rs) (hrs : rs.Nodup) (hs : rs.length ≤ g.size) :
    rs.foldlM (Arena.detach side i) g.arena = .ok (rs.foldl (detach side i) g).arena := by
  induction rs generalizing g with
  | nil => rfl
  | cons r rs ih =>
    obtain ⟨hr, hrs⟩ := List.nodup_cons.mp hrs
    have hsize : (g.detach side i r).size = g.size - 1 := by
      rw [detach_eq, size_release]
      rfl
    rw [List.length_cons] at hs
    rw [List.foldlM_cons, detach_arena h (by omega), Except.ok_bind, List.foldl_cons]
    exact ih (h.step hr).1 hrs (by omega)

end Clear

namespace Represents

variable {p : PairSet} (h : Represents g p)
include h

lemma length_neighbours_le (side : Side) (n : String) :
    (g.neighbourSlots side n).length ≤ g.size := by
  rw [h.length_neighbours, h.size]
  exact Finset.card_filter_le _ _

lemma clear_arena (side : Side) (name : String) :
    g.arena.clear side name = .ok (g.clear side name).arena := by
  have hindex : g.arena.index[name]? = g.slotOf? name := rfl
  have hle := h.length_neighbours_le side name
  rw [Arena.clear, hindex]
  cases hn : g.slotOf? name with
  | none => rw [clear_of_unknown hn]
  | some i =>
    have hi := h.slot_lt hn
    have hd : (g.emptied side i).Detaching side i ((g.slot i).neighbours side).toList :=
      h.toWellFormed.emptied hi
    rw [neighbourSlots, hn] at hle
    have hread : Checked.read (g.arena.sets side) i = .ok ((g.slot i).neighbours side) := by
      rw [sets_arena, read_map _ hi]
    have hemptied : (g.arena.update side i fun _ => .empty) = .ok (g.emptied side i).arena :=
      update_arena hi _ _
    have hsize : Graph.slotCount _ = (g.emptied side i).slotCount :=
      slotCount_detach_all side i ((g.slot i).neighbours side).toList (g.emptied side i)
    have hlast := release_arena (hd.fold (SlotSet.nodup _)).1.toIndexed
      (hi.trans_eq (hsize.trans Array.size_modify).symm)
    dsimp only
    rw [hread, Except.ok_bind, hemptied, Except.ok_bind,
      detach_all_arena hd (SlotSet.nodup _) hle, Except.ok_bind, hlast, clear_of_known hn]

lemma remove_arena (s t : String) : g.arena.remove s t = .ok (g.remove s t).arena := by
  have hindex (n : String) : g.arena.index[n]? = g.slotOf? n := rfl
  rw [Arena.remove, Graph.remove, hindex, hindex]
  cases hi : g.slotOf? s with
  | none => rfl
  | some i =>
    cases hj : g.slotOf? t with
    | none => rfl
    | some j =>
      dsimp only
      by_cases he : g.Edge .dependents i j
      · have hpair : g.Pair s t := (pair_iff h.toWellFormed s t).mpr ⟨i, j, hi, hj, he⟩
        apply unlink_arena h.toWellFormed he
        rw [h.size]
        exact Finset.card_pos.mpr ⟨_, (h.pair s t).mp hpair⟩
      · have he' : j ∉ (g.slot i).dependents := he
        rw [Arena.unlink, read_dependents (h.slot_lt hi), Except.ok_bind, if_neg he', unlink,
          if_neg he']
        rfl

omit h in
lemma foldlM_arena {α : Type} {f : Graph → α → Graph} {f' : PairSet → α → PairSet}
    {c : Arena → α → Except ArenaFault Arena}
    (hstep : ∀ {g p} a, Represents g p → Represents (f g a) (f' p a))
    (hc : ∀ {g p} a, Represents g p → c g.arena a = .ok (f g a).arena) (as : List α) {g : Graph}
    {p : PairSet} (h : Represents g p) : as.foldlM c g.arena = .ok (as.foldl f g).arena := by
  induction as generalizing g p with
  | nil => rfl
  | cons a as ih =>
    rw [List.foldlM_cons, hc a h, Except.ok_bind, ih (hstep a h), List.foldl_cons]

end Represents

end Graph

namespace Arena

def perform (a : Arena) : Graph.Operation → Except ArenaFault Arena
  | .add s t => a.add s t
  | .remove s t => a.remove s t
  | .replaceDependents s ts => a.replaceDependents s ts
  | .replaceDependees t ss => a.replaceDependees t ss

def run (ops : List Graph.Operation) : Except ArenaFault Arena := ops.foldlM perform empty

end Arena

namespace Graph

variable {g : Graph} {p : PairSet}

lemma Represents.perform_arena (h : Represents g p) (op : Operation) :
    g.arena.perform op = .ok (g.perform op).arena := by
  cases op with
  | add s t => exact add_arena h.toIndexed s t
  | remove s t => exact h.remove_arena s t
  | replaceDependents s ts =>
    rw [Arena.perform, Arena.replaceDependents, h.clear_arena, Except.ok_bind]
    exact foldlM_arena (fun t h => h.add s t) (fun t h => add_arena h.toIndexed s t) ts
      (h.clear .dependents s)
  | replaceDependees t ss =>
    rw [Arena.perform, Arena.replaceDependees, h.clear_arena, Except.ok_bind]
    exact foldlM_arena (fun s h => h.add s t) (fun s h => add_arena h.toIndexed s t) ss
      (h.clear .dependees t)

lemma arena_empty : Graph.empty.arena = Arena.empty := by
  simp only [arena, Graph.empty, List.map_toArray, List.map_nil]
  rfl

lemma run_arena (ops : List Operation) : Arena.run ops = .ok (run ops).arena := by
  rw [Arena.run, ← arena_empty]
  exact Represents.foldlM_arena (fun op h => h.perform op) (fun op h => h.perform_arena op) ops
    .empty

section Walk

variable {marks : Marks} {finished : List Nat} {stack : List Frame} {start i : Nat}

lemma cyclePath_arena (stack : List Frame) (i : Nat) :
    Arena.cyclePath stack i = .ok (cyclePath stack i) := by
  rw [Arena.cyclePath]
  apply if_pos
  cases hi : ((stack.map Frame.slot).reverse).idxOf? i with
  | none => exact Nat.zero_le _
  | some k =>
    obtain ⟨hk, -⟩ := List.findIdx?_eq_some_iff_getElem.mp hi
    exact hk.le

lemma walk_arena (hg : g.WellFormed) (h : Walking g start marks finished stack) :
    g.arena.walk marks finished stack = .ok (walk g marks finished stack) := by
  induction h using Walking.induct hg with
  | last h => rw [Arena.walk, if_pos h.slot_lt, walk_leave, Arena.walk, walk]
  | leave h ih =>
    rw [Arena.walk, if_pos h.slot_lt, walk_leave]
    exact ih
  | enter h hj ih =>
    have hlt := hg.slot_lt (hg.live_right (h.trail.covers.pending List.mem_cons_self))
    rw [walk_enter _ _ _ _ _ hj, ← ih, Arena.walk]
    split
    · rw [read_dependents hlt]
    all_goals
      rename_i hj'
      cases hj.symm.trans hj'
  | cycle h hj =>
    rw [walk_cycle _ _ _ _ _ hj, Arena.walk]
    split
    case h_2 => rw [cyclePath_arena, Except.map]
    all_goals
      rename_i hj'
      cases hj.symm.trans hj'
  | skip h hu hp ih =>
    have hdone := h.marked_done hg hu hp
    rw [walk_skip _ _ _ _ _ hu hp, ← ih, Arena.walk]
    split
    case h_3 => rfl
    all_goals
      rename_i hj'
      cases hdone.symm.trans hj'

lemma mapM_nameOf {is : List Nat} (h : ∀ i ∈ is, i < g.slots.size) :
    is.mapM g.arena.nameOf = .ok (is.map g.nameOf) := by
  rw [List.mapM_eq_ok_iff, List.map_map]
  apply List.map_congr_left
  intro i hi
  exact read_map Slot.name (h i hi)

lemma recalculationOrder_arena (hg : g.WellFormed) (name : String) :
    g.arena.recalculationOrder name = .ok (g.recalculationOrder name) := by
  have hindex : g.arena.index[name]? = g.slotOf? name := rfl
  rw [Arena.recalculationOrder, recalculationOrder, hindex]
  cases hn : g.slotOf? name with
  | none => rfl
  | some i =>
    have hi := hg.slot_lt hn
    have hsize : g.arena.names.size = g.slotCount := Array.size_map
    have hmarks : Checked.write (Array.replicate g.arena.names.size Mark.unvisited) i .onPath =
        .ok ((Array.replicate g.slotCount Mark.unvisited).setIfInBounds i .onPath) := by
      rw [Checked.write, hsize, if_pos (by rwa [Array.size_replicate])]
    have hstart := walking_start hg (hg.live_of_slot hn)
    have hreached {j : Nat} (hj : Relation.ReflTransGen (g.Edge .dependents) i j) : g.Live j :=
      live_of_reflTransGen hg (hg.live_of_slot hn) hj
    dsimp only
    rw [hmarks, Except.ok_bind, read_dependents hi, Except.ok_bind, walk_arena hg hstart,
      Except.ok_bind]
    cases hw : walk g _ [] _ with
    | ok order =>
      have horder := (walk_ok hg hstart hw).1
      dsimp only
      rw [mapM_nameOf fun j hj => hg.slot_lt (hreached (horder.reached hj))]
      rfl
    | error path =>
      obtain ⟨j, mid, rfl, -, -, hchain, hj⟩ := walk_error hg hstart hw
      have hlive : ∀ k ∈ j :: mid ++ [j], g.Live k := live_of_isChain hg hchain (hreached hj)
      dsimp only
      rw [mapM_nameOf fun k hk => hg.slot_lt (hlive k hk)]
      rfl

end Walk

end Graph

end Spreadsheet
