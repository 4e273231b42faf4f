import Mathlib
import Spreadsheet.Proofs.Graph.Turns

/-! How many slots a graph comes to have. A slot is added only if all others are in use, and an
operation takes no name before it has given up all that it gives up. The slots are therefore as many
as the names have been at some time between two operations. -/

namespace Spreadsheet.Graph

variable {g g' g'' : Graph}

lemma Indexed.slotCount_eq (h : g.Indexed) : g.slotCount = g.nodeCount + g.free.length := by
  have hfree : g.free.toFinset = (Finset.range g.slotCount).filter fun i => ¬ g.Live i := by
    ext i
    rw [List.mem_toFinset, Finset.mem_filter, Finset.mem_range, h.mem_free]
    rfl
  rw [← h.card_liveSlots, ← List.toFinset_card_of_nodup h.free_nodup, hfree, liveSlots,
    Finset.card_filter_add_card_filter_not, Finset.card_range]

lemma Indexed.nodeCount_le (h : g.Indexed) : g.nodeCount ≤ g.slotCount :=
  h.slotCount_eq ▸ Nat.le_add_right _ _

lemma Extends.nodeCount_le (h : g.Extends g') : g.nodeCount ≤ g'.nodeCount := by
  rw [← card_keys, ← card_keys]
  apply Finset.card_le_card
  intro n hn
  rw [mem_keys] at hn ⊢
  obtain ⟨i, hi⟩ := Option.isSome_iff_exists.mp hn
  exact Option.isSome_of_eq_some (h n i hi)

structure Grows (g g' : Graph) : Prop where
  slotCount : g'.slotCount = max g.slotCount g'.nodeCount
  nodeCount : g.nodeCount ≤ g'.nodeCount

lemma Indexed.grows (h : g.Indexed) : Grows g g :=
  ⟨(max_eq_left h.nodeCount_le).symm, Nat.le_refl _⟩

lemma Grows.trans (h : Grows g g') (h' : Grows g' g'') : Grows g g'' where
  slotCount := by rw [h'.slotCount, h.slotCount, max_assoc, max_eq_right h'.nodeCount]
  nodeCount := Nat.le_trans h.nodeCount h'.nodeCount

lemma Indexed.grows_intern (h : g.Indexed) (name : String) : Grows g (g.intern name).1 where
  nodeCount := (g.extends_intern name).nodeCount_le
  slotCount := by
    have h' := h.intern name
    cases hn : g.slotOf? name with
    | some i =>
      rw [intern_known g name hn]
      exact h.grows.slotCount
    | none =>
      cases hf : g.free with
      | nil =>
        rw [intern_new g name hn hf] at h' ⊢
        have hfull : Graph.slotCount (g.named name g.slots.size _ []) = _ := h'.slotCount_eq
        have hsize : Graph.slotCount (g.named name g.slots.size
          (g.slots.push ⟨name, .empty, .empty⟩) []) = g.slotCount + 1 := Array.size_push _
        exact hfull.trans (max_eq_right (Nat.le_of_succ_le (hsize ▸ hfull).le)).symm
      | cons i free =>
        rw [intern_free g name hn hf] at h' ⊢
        have hsize : (g.slots.modify i (·.rename name)).size = g.slots.size := Array.size_modify
        exact hsize.trans (max_eq_left (hsize ▸ h'.nodeCount_le)).symm

lemma WellFormed.grows_add (h : g.WellFormed) (s t : String) : Grows g (g.add s t) := by
  have hgrows := (h.toIndexed.grows_intern s).trans ((h.toIndexed.intern s).grows_intern t)
  have hlink (g : Graph) (i j : Nat) : (g.link i j).slotCount = g.slotCount ∧
      (g.link i j).nodeCount = g.nodeCount := by
    rw [link]
    split
    · exact ⟨rfl, rfl⟩
    · refine ⟨?_, rfl⟩
      exact Array.size_modify.trans Array.size_modify
  obtain ⟨hslots, hnodes⟩ := hlink ((g.intern s).1.intern t).1 (g.intern s).2
    ((g.intern s).1.intern t).2
  exact ⟨hslots.trans (hgrows.slotCount.trans (by rw [← hnodes]; rfl)),
    hgrows.nodeCount.trans hnodes.ge⟩

section Shrink

variable (side : Side) (i : Nat)

lemma slotCount_release (g : Graph) : (g.release i).slotCount = g.slotCount := by
  rw [release]
  split
  · exact Array.size_modify
  · rfl

lemma slotCount_detach_all (rs : List Nat) (g : Graph) :
    (rs.foldl (detach side i) g).slotCount = g.slotCount := by
  induction rs generalizing g with
  | nil => rfl
  | cons r rs ih =>
    rw [List.foldl_cons, ih, detach_eq, slotCount_release]
    exact Array.size_modify

lemma slotCount_clear (g : Graph) (name : String) :
    (g.clear side name).slotCount = g.slotCount := by
  cases hn : g.slotOf? name with
  | none => rw [clear_of_unknown hn]
  | some i =>
    rw [clear_of_known hn, slotCount_release, slotCount_detach_all]
    exact Array.size_modify

lemma slotCount_remove (g : Graph) (s t : String) : (g.remove s t).slotCount = g.slotCount := by
  rw [remove]
  split
  · rename_i i j _ _
    by_cases he : g.Edge .dependents i j
    · rw [unlink_of_edge he, slotCount_release, slotCount_release]
      exact Array.size_modify.trans Array.size_modify
    · exact congrArg slotCount (if_neg he)
  · rfl

end Shrink

namespace Represents

variable {p : PairSet}

lemma grows_foldl {α : Type} {f : Graph → α → Graph} {f' : PairSet → α → PairSet}
    (hstep : ∀ {g p} a, Represents g p → Represents (f g a) (f' p a))
    (hgrows : ∀ {g p} a, Represents g p → Grows g (f g a)) (as : List α) {g : Graph} {p : PairSet}
    (h : Represents g p) : Grows g (as.foldl f g) := by
  induction as generalizing g p with
  | nil => exact h.toIndexed.grows
  | cons a as ih => exact (hgrows a h).trans (ih (hstep a h))

lemma slotCount_perform (h : Represents g p) (op : Operation) :
    (g.perform op).slotCount = max g.slotCount (g.perform op).nodeCount := by
  cases op with
  | add s t => exact (h.toWellFormed.grows_add s t).slotCount
  | remove s t =>
    rw [← slotCount_remove g s t]
    exact (h.remove s t).toIndexed.grows.slotCount
  | replaceDependents s ts =>
    rw [← slotCount_clear .dependents g s]
    exact ((h.clear .dependents s).grows_foldl (fun t h => h.add s t)
      (fun t h => h.toWellFormed.grows_add s t) ts).slotCount
  | replaceDependees t ss =>
    rw [← slotCount_clear .dependees g t]
    exact ((h.clear .dependees t).grows_foldl (fun s h => h.add s t)
      (fun s h => h.toWellFormed.grows_add s t) ss).slotCount

end Represents

lemma isGreatest_slotCount (ops : List Operation) :
    IsGreatest {n | ∃ done, done <+: ops ∧ (run done).nodeCount = n} (run ops).slotCount := by
  induction ops using List.reverseRecOn with
  | nil =>
    refine ⟨⟨[], List.prefix_rfl, rfl⟩, ?_⟩
    rintro n ⟨done, hdone, rfl⟩
    rw [List.prefix_nil.mp hdone]
    rfl
  | append_singleton ops op ih =>
    have hrun : run (ops ++ [op]) = (run ops).perform op := List.foldl_concat _ _ _ _
    have hset : {n | ∃ done, done <+: ops ++ [op] ∧ (run done).nodeCount = n} =
        insert (run (ops ++ [op])).nodeCount
          {n | ∃ done, done <+: ops ∧ (run done).nodeCount = n} := by
      ext n
      simp [List.prefix_concat_iff, or_and_right, exists_or, eq_comm]
    rw [hset, hrun, (Represents.run ops).slotCount_perform, max_comm]
    exact ih.insert _

end Spreadsheet.Graph
