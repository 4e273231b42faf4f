import Mathlib
import Spreadsheet.Graph.Recalculation
import Spreadsheet.Proofs.Graph.Pairs

/-! The depth-first walk. Its stack is a trail from the start whose slots are the ones marked as on
the path, and every slot that it has left comes before all slots that can be reached from it. -/

namespace Spreadsheet

open Relation

def Topological {α : Type} (r : α → α → Prop) : List α → Prop
  | [] => True
  | a :: as => (∀ b, r a b → b ∈ as) ∧ Topological r as

lemma Topological.mem_of_rel {α : Type} {r : α → α → Prop} {as : List α} (h : Topological r as)
    {a b : α} (ha : a ∈ as) (hab : r a b) : b ∈ as := by
  induction as with
  | nil => exact (List.not_mem_nil ha).elim
  | cons c as ih =>
    rcases List.mem_cons.mp ha with rfl | ha
    · exact List.mem_cons_of_mem _ (h.1 b hab)
    · exact List.mem_cons_of_mem _ (ih h.2 ha)

lemma Topological.mem_of_reflTransGen {α : Type} {r : α → α → Prop} {as : List α}
    (h : Topological r as) {a b : α} (ha : a ∈ as) (hab : ReflTransGen r a b) : b ∈ as := by
  induction hab with
  | refl => exact ha
  | tail _ hbc ih => exact h.mem_of_rel ih hbc

lemma Topological.mem_of_cons {α : Type} {r : α → α → Prop} {a b : α} {as : List α}
    (h : Topological r (a :: as)) (hab : TransGen r a b) : b ∈ as := by
  obtain ⟨c, hac, hcb⟩ := TransGen.head'_iff.mp hab
  exact h.2.mem_of_reflTransGen (h.1 c hac) hcb

lemma Topological.not_transGen_self {α : Type} {r : α → α → Prop} {as : List α}
    (h : Topological r as) (hn : as.Nodup) {a : α} (ha : a ∈ as) : ¬ TransGen r a a := by
  induction as with
  | nil => exact (List.not_mem_nil ha).elim
  | cons b as ih =>
    obtain ⟨hb, hn⟩ := List.nodup_cons.mp hn
    rcases List.mem_cons.mp ha with rfl | ha
    · exact fun hc => hb (h.mem_of_cons hc)
    · exact ih h.2 hn ha

lemma Topological.not_rel_head {α : Type} {r : α → α → Prop} {a b : α} {as : List α}
    (h : Topological r (a :: as)) (hn : (a :: as).Nodup) (hb : b ∈ a :: as) : ¬ r b a := by
  have ha := (List.nodup_cons.mp hn).1
  rcases List.mem_cons.mp hb with rfl | hb
  · exact fun hr => ha (h.1 _ hr)
  · exact fun hr => ha (h.2.mem_of_rel hb hr)

lemma Topological.idxOf_lt {α : Type} [BEq α] [LawfulBEq α] {r : α → α → Prop} {as : List α}
    (h : Topological r as) (hn : as.Nodup) {a b : α} (ha : a ∈ as) (hab : r a b) :
    as.idxOf a < as.idxOf b := by
  induction as with
  | nil => exact (List.not_mem_nil ha).elim
  | cons c as ih =>
    obtain ⟨hc, hn'⟩ := List.nodup_cons.mp hn
    have hcb : c ≠ b := by
      rintro rfl
      exact h.not_rel_head hn ha hab
    rw [List.idxOf_cons_ne _ hcb]
    rcases List.mem_cons.mp ha with rfl | ha
    · rw [List.idxOf_cons_self]
      exact Nat.succ_pos _
    · rw [List.idxOf_cons_ne _ (ne_of_mem_of_not_mem ha hc).symm]
      exact Nat.succ_lt_succ (ih h.2 hn' ha)

namespace Recalculation

variable {g : Graph} {start : Nat}

structure Frame.Covers (g : Graph) (finished : List Nat) (next : Option Nat) (f : Frame) :
    Prop where
  pending {j : Nat} (h : j ∈ f.pending) : g.Edge .dependents f.slot j
  complete {j : Nat} (h : g.Edge .dependents f.slot j) :
    j ∈ f.pending ∨ j ∈ finished ∨ next = some j

inductive Trail (g : Graph) (start : Nat) (finished : List Nat) :
    Option Nat → List Frame → Prop
  | root {next : Option Nat} {f : Frame} (hf : f.Covers g finished next) (hs : f.slot = start) :
    Trail g start finished next [f]
  | step {next : Option Nat} {f below : Frame} {stack : List Frame}
    (hf : f.Covers g finished next) (he : g.Edge .dependents below.slot f.slot)
    (h : Trail g start finished (some f.slot) (below :: stack)) :
    Trail g start finished next (f :: below :: stack)

structure Listed (g : Graph) (start : Nat) (finished : List Nat) : Prop where
  nodup_finished : finished.Nodup
  topological : Topological (g.Edge .dependents) finished
  reached {i : Nat} (h : i ∈ finished) : ReflTransGen (g.Edge .dependents) start i

structure Walking (g : Graph) (start : Nat) (marks : Marks) (finished : List Nat)
    (stack : List Frame) : Prop extends Listed g start finished where
  size : marks.size = g.slotCount
  onPath (i : Nat) : marks[i]? = some .onPath ↔ i ∈ stack.map Frame.slot
  done (i : Nat) : marks[i]? = some .done ↔ i ∈ finished
  nodup : (stack.map Frame.slot).Nodup
  trail : Trail g start finished none stack

lemma Frame.Covers.mono {finished finished' : List Nat} {next next' : Option Nat} {f : Frame}
    (h : f.Covers g finished next) (hf : ∀ j, j ∈ finished → j ∈ finished')
    (hn : ∀ j, next = some j → j ∈ finished' ∨ next' = some j) : f.Covers g finished' next' where
  pending := h.pending
  complete hj := by
    rcases h.complete hj with hp | hd | hx
    · exact Or.inl hp
    · exact Or.inr (Or.inl (hf _ hd))
    · exact Or.inr (hn _ hx)

lemma Frame.Covers.advance {finished : List Nat} {next : Option Nat} {i j : Nat}
    {pending : List Nat} (h : Frame.Covers g finished none ⟨i, j :: pending⟩)
    (hj : j ∈ finished ∨ next = some j) : Frame.Covers g finished next ⟨i, pending⟩ where
  pending hk := h.pending (List.mem_cons_of_mem j hk)
  complete hk := by
    rcases h.complete hk with hk | hk | hk
    · rcases List.mem_cons.mp hk with rfl | hk
      · exact Or.inr hj
      · exact Or.inl hk
    · exact Or.inr (Or.inl hk)
    · cases hk

lemma Trail.mono {finished finished' : List Nat} {next next' : Option Nat} {stack : List Frame}
    (h : Trail g start finished next stack) (hf : ∀ j, j ∈ finished → j ∈ finished')
    (hn : ∀ j, next = some j → j ∈ finished' ∨ next' = some j) :
    Trail g start finished' next' stack := by
  induction h generalizing next' with
  | root hc hs => exact .root (hc.mono hf hn) hs
  | step hc he _ ih => exact .step (hc.mono hf hn) he (ih fun j hj => Or.inr hj)

lemma Trail.covers {finished : List Nat} {next : Option Nat} {f : Frame} {stack : List Frame}
    (h : Trail g start finished next (f :: stack)) : f.Covers g finished next := by
  cases h <;> assumption

lemma Trail.replace {finished : List Nat} {next next' : Option Nat} {f f' : Frame}
    {stack : List Frame} (h : Trail g start finished next (f :: stack)) (hs : f'.slot = f.slot)
    (hc : f'.Covers g finished next') : Trail g start finished next' (f' :: stack) := by
  cases h with
  | root _ hr => exact .root hc (hs.trans hr)
  | step _ he h =>
    rw [← hs] at he h
    exact .step hc he h

lemma Trail.reached {finished : List Nat} {next : Option Nat} {stack : List Frame}
    (h : Trail g start finished next stack) :
    ∀ i ∈ stack.map Frame.slot, ReflTransGen (g.Edge .dependents) start i := by
  induction h with
  | root _ hs =>
    intro i hi
    rw [List.mem_singleton.mp hi, hs]
  | step _ he _ ih =>
    intro i hi
    rcases List.mem_cons.mp hi with rfl | hi
    · exact (ih _ List.mem_cons_self).tail he
    · exact ih i hi

lemma Trail.isChain {finished : List Nat} {next : Option Nat} {stack : List Frame}
    (h : Trail g start finished next stack) :
    ((stack.map Frame.slot).reverse).IsChain (g.Edge .dependents) := by
  rw [List.isChain_reverse]
  induction h with
  | root => exact .singleton _
  | step _ he _ ih => exact .cons_cons he ih

lemma Trail.getLast? {finished : List Nat} {next : Option Nat} {stack : List Frame}
    (h : Trail g start finished next stack) : (stack.map Frame.slot).getLast? = some start := by
  induction h with
  | root _ hs => exact congrArg some hs
  | step _ _ _ ih =>
    rw [List.map_cons, List.map_cons, List.getLast?_cons_cons]
    exact ih

lemma drop_idxOf_append {before mid : List Nat} {j : Nat} (hj : j ∉ before) :
    (before ++ j :: mid).drop (((before ++ j :: mid).idxOf? j).getD 0) = j :: mid := by
  have hat : (before ++ j :: mid).idxOf? j = some before.length := by
    rw [List.idxOf?, List.findIdx?_append, List.findIdx?_eq_none_iff.mpr]
    · simp [List.findIdx?_cons]
    · intro k hk
      rw [beq_eq_false_iff_ne]
      rintro rfl
      exact hj hk
  rw [hat]
  exact List.drop_left

lemma exists_drop_idxOf {path : List Nat} {j : Nat} (hj : j ∈ path) (hn : path.Nodup)
    (hs : path.head? = some start) : ∃ before mid, path = before ++ j :: mid ∧
      path.drop ((path.idxOf? j).getD 0) = j :: mid ∧ (j :: mid).Nodup ∧ start ∉ mid := by
  obtain ⟨before, mid, hsplit, hbefore⟩ := List.eq_append_cons_of_mem hj
  have htail : (j :: mid).Nodup := hn.sublist (hsplit ▸ List.sublist_append_right _ _)
  refine ⟨before, mid, hsplit, ?_, htail, ?_⟩
  · rw [hsplit]
    exact drop_idxOf_append hbefore
  · rw [hsplit] at hs hn
    cases before with
    | nil => exact Option.some.inj hs ▸ (List.nodup_cons.mp htail).1
    | cons b before =>
      obtain rfl := Option.some.inj hs
      intro hb
      exact (List.nodup_cons.mp hn).1 (by simp [hb])

lemma marks_set {marks : Marks} {i : Nat} (hi : i < marks.size) (m : Mark) (k : Nat) :
    (marks.setIfInBounds i m)[k]? = if i = k then some m else marks[k]? := by
  simp only [Array.getElem?_setIfInBounds, hi, if_true]

lemma mark_of_set {marks : Marks} {i k : Nat} {m m' : Mark}
    (h : (marks.setIfInBounds i m)[k]? = some m') :
    k = i ∧ m = m' ∨ k ≠ i ∧ marks[k]? = some m' := by
  rw [Array.getElem?_setIfInBounds] at h
  split at h
  · rename_i hik
    split at h
    · exact Or.inl ⟨hik.symm, Option.some.inj h⟩
    · cases h
  · rename_i hik
    exact Or.inr ⟨Ne.symm hik, h⟩

section Steps

variable {marks : Marks} {finished : List Nat} {stack : List Frame} {i j : Nat}
  {pending : List Nat}

lemma Walking.pop (h : Walking g start marks finished (⟨i, []⟩ :: stack)) :
    Listed g start (i :: finished) where
  nodup_finished := by
    refine List.nodup_cons.mpr ⟨fun hi => ?_, h.nodup_finished⟩
    have hp := (h.onPath i).mpr List.mem_cons_self
    cases hp.symm.trans ((h.done i).mpr hi)
  topological := by
    refine ⟨fun j hj => ?_, h.topological⟩
    rcases h.trail.covers.complete hj with hj | hj | hj
    · exact (List.not_mem_nil hj).elim
    · exact hj
    · cases hj
  reached {j} hj := by
    rcases List.mem_cons.mp hj with rfl | hj
    · exact h.trail.reached _ List.mem_cons_self
    · exact h.reached hj

lemma Walking.slot_lt (h : Walking g start marks finished (⟨i, pending⟩ :: stack)) :
    i < marks.size :=
  (Array.getElem?_eq_some_iff.mp ((h.onPath i).mpr List.mem_cons_self)).1

lemma Walking.leave {f : Frame} (h : Walking g start marks finished (⟨i, []⟩ :: f :: stack)) :
    Walking g start (marks.setIfInBounds i .done) (i :: finished) (f :: stack) where
  toListed := h.pop
  size := by
    rw [Array.size_setIfInBounds, h.size]
  onPath k := by
    have hni := (List.nodup_cons.mp h.nodup).1
    rw [marks_set h.slot_lt]
    split
    · rename_i hk
      subst hk
      exact iff_of_false (by simp) hni
    · rename_i hk
      rw [h.onPath, List.map_cons, List.mem_cons]
      exact or_iff_right (Ne.symm hk)
  done k := by
    rw [marks_set h.slot_lt, List.mem_cons]
    split
    · rename_i hk
      simp [hk]
    · rename_i hk
      rw [h.done]
      exact (or_iff_right (Ne.symm hk)).symm
  nodup := (List.nodup_cons.mp h.nodup).2
  trail := by
    cases h.trail with
    | step _ _ ht =>
      refine ht.mono (fun _ => List.mem_cons_of_mem i) fun k hk => Or.inl ?_
      exact Option.some.inj hk ▸ List.mem_cons_self

lemma Walking.enter (h : Walking g start marks finished (⟨i, j :: pending⟩ :: stack))
    (hj : marks[j]? = some .unvisited) :
    Walking g start (marks.setIfInBounds j .onPath) finished
      (⟨j, (g.slot j).dependents.toList⟩ :: ⟨i, pending⟩ :: stack) where
  toListed := h.toListed
  size := by
    rw [Array.size_setIfInBounds, h.size]
  onPath k := by
    rw [marks_set (Array.getElem?_eq_some_iff.mp hj).1, List.map_cons, List.mem_cons]
    split
    · rename_i hk
      simp [hk]
    · rename_i hk
      rw [h.onPath]
      exact (or_iff_right (Ne.symm hk)).symm
  done k := by
    rw [marks_set (Array.getElem?_eq_some_iff.mp hj).1]
    split
    · rename_i hk
      subst hk
      rw [← h.done, hj]
      exact iff_of_false (by simp) (by simp)
    · exact h.done k
  nodup := by
    refine List.nodup_cons.mpr ⟨fun hm => ?_, h.nodup⟩
    cases hj.symm.trans ((h.onPath j).mpr hm)
  trail := by
    have hc := h.trail.covers
    have hij : g.Edge .dependents i j := hc.pending List.mem_cons_self
    have hchild : (⟨j, (g.slot j).dependents.toList⟩ : Frame).Covers g finished none :=
      ⟨fun hk => hk, fun hk => Or.inl hk⟩
    exact .step hchild hij (h.trail.replace rfl (hc.advance (Or.inr rfl)))

lemma Walking.marked_done (hg : g.WellFormed)
    (h : Walking g start marks finished (⟨i, j :: pending⟩ :: stack))
    (hu : marks[j]? ≠ some .unvisited) (hp : marks[j]? ≠ some .onPath) :
    marks[j]? = some .done := by
  have hij : g.Edge .dependents i j := h.trail.covers.pending List.mem_cons_self
  have hlt : j < marks.size := by
    rw [h.size]
    exact hg.slot_lt (hg.live_right hij)
  rw [Array.getElem?_eq_getElem hlt] at hu hp ⊢
  cases hm : marks[j] with
  | unvisited => exact (hu (congrArg some hm)).elim
  | onPath => exact (hp (congrArg some hm)).elim
  | done => rfl

lemma Walking.skip (hg : g.WellFormed)
    (h : Walking g start marks finished (⟨i, j :: pending⟩ :: stack))
    (hu : marks[j]? ≠ some .unvisited) (hp : marks[j]? ≠ some .onPath) :
    Walking g start marks finished (⟨i, pending⟩ :: stack) := by
  have hj : j ∈ finished := (h.done j).mp (h.marked_done hg hu hp)
  exact { h with trail := h.trail.replace rfl (h.trail.covers.advance (Or.inl hj)) }

lemma Walking.cyclePath_eq (h : Walking g start marks finished (⟨i, j :: pending⟩ :: stack))
    (hj : marks[j]? = some .onPath) :
    ∃ mid, cyclePath (⟨i, pending⟩ :: stack) j = j :: mid ++ [j] ∧ (j :: mid).Nodup ∧
      start ∉ mid ∧ (j :: mid ++ [j]).IsChain (g.Edge .dependents) ∧
      ReflTransGen (g.Edge .dependents) start j := by
  let path := ((⟨i, pending⟩ :: stack : List Frame).map Frame.slot).reverse
  have hpath : path = ((⟨i, j :: pending⟩ :: stack : List Frame).map Frame.slot).reverse := rfl
  have hmem : j ∈ path := List.mem_reverse.mpr ((h.onPath j).mp hj)
  have hchain : (path ++ [j]).IsChain (g.Edge .dependents) := by
    apply h.trail.isChain.append (List.isChain_singleton j)
    intro x hx y hy
    have hxi : i = x := by simpa using hx
    have hyj : j = y := by simpa using hy
    rw [← hxi, ← hyj]
    exact h.trail.covers.pending List.mem_cons_self
  have hnodup : path.Nodup := by
    rw [hpath]
    exact List.pairwise_reverse.mpr (h.nodup.imp Ne.symm)
  have hstart : path.head? = some start := by
    rw [hpath, List.head?_reverse]
    exact h.trail.getLast?
  obtain ⟨before, mid, hsplit, hdrop, htail, hmid⟩ := exists_drop_idxOf hmem hnodup hstart
  refine ⟨mid, ?_, htail, hmid, ?_, h.trail.reached j ((h.onPath j).mp hj)⟩
  · exact congrArg (· ++ [j]) hdrop
  · rw [hsplit, List.append_assoc] at hchain
    exact hchain.right_of_append

end Steps

section Equations

variable (marks : Marks) (finished : List Nat) (stack : List Frame) (i : Nat) {j : Nat}
  (pending : List Nat)

lemma walk_leave : walk g marks finished (⟨i, []⟩ :: stack) =
    walk g (marks.setIfInBounds i .done) (i :: finished) stack := by
  rw [walk]

lemma walk_enter (hj : marks[j]? = some .unvisited) :
    walk g marks finished (⟨i, j :: pending⟩ :: stack) =
      walk g (marks.setIfInBounds j .onPath) finished
        (⟨j, (g.slot j).dependents.toList⟩ :: ⟨i, pending⟩ :: stack) := by
  rw [walk]
  split
  · rfl
  · rename_i hj'
    cases hj.symm.trans hj'
  · rename_i hj' _
    exact (hj' hj).elim

lemma walk_cycle (hj : marks[j]? = some .onPath) :
    walk g marks finished (⟨i, j :: pending⟩ :: stack) =
      .error (cyclePath (⟨i, pending⟩ :: stack) j) := by
  rw [walk]
  split
  · rename_i hj'
    cases hj.symm.trans hj'
  · rfl
  · rename_i hj'
    exact (hj' hj).elim

lemma walk_skip (hu : marks[j]? ≠ some .unvisited) (hp : marks[j]? ≠ some .onPath) :
    walk g marks finished (⟨i, j :: pending⟩ :: stack) =
      walk g marks finished (⟨i, pending⟩ :: stack) := by
  rw [walk]
  split
  · rename_i hj
    exact (hu hj).elim
  · rename_i hj
    exact (hp hj).elim
  · rfl

end Equations

variable {marks : Marks} {finished order path : List Nat} {stack : List Frame}

theorem Walking.induct (hg : g.WellFormed)
    {motive : ∀ marks finished stack, Walking g start marks finished stack → Prop}
    (last : ∀ {marks finished} (h : Walking g start marks finished [⟨start, []⟩]),
      motive marks finished [⟨start, []⟩] h)
    (leave : ∀ {marks finished i f stack}
      (h : Walking g start marks finished (⟨i, []⟩ :: f :: stack)),
      motive _ _ _ h.leave → motive marks finished (⟨i, []⟩ :: f :: stack) h)
    (enter : ∀ {marks finished i j pending stack}
      (h : Walking g start marks finished (⟨i, j :: pending⟩ :: stack))
      (hj : marks[j]? = some .unvisited),
      motive _ _ _ (h.enter hj) → motive marks finished (⟨i, j :: pending⟩ :: stack) h)
    (cycle : ∀ {marks finished i j pending stack}
      (h : Walking g start marks finished (⟨i, j :: pending⟩ :: stack)),
      marks[j]? = some .onPath → motive marks finished (⟨i, j :: pending⟩ :: stack) h)
    (skip : ∀ {marks finished i j pending stack}
      (h : Walking g start marks finished (⟨i, j :: pending⟩ :: stack))
      (hu : marks[j]? ≠ some .unvisited) (hp : marks[j]? ≠ some .onPath),
      motive _ _ _ (h.skip hg hu hp) → motive marks finished (⟨i, j :: pending⟩ :: stack) h)
    {marks : Marks} {finished : List Nat} {stack : List Frame}
    (h : Walking g start marks finished stack) : motive marks finished stack h := by
  induction marks, finished, stack using walk.induct g with
  | case1 marks finished => cases h.trail
  | case2 marks finished i stack ih =>
    cases stack with
    | nil =>
      obtain rfl : i = start := by
        cases h.trail with
        | root _ hs => exact hs
      exact last h
    | cons f stack => exact leave h (ih h.leave)
  | case3 marks finished i j pending stack hj ih => exact enter h hj (ih (h.enter hj))
  | case4 marks finished i j pending stack hj => exact cycle h hj
  | case5 marks finished i j pending stack hu hp ih =>
    exact skip h hu hp (ih (h.skip hg hu hp))

def Ended (g : Graph) (start : Nat) : Except (List Nat) (List Nat) → Prop
  | .ok order => Listed g start order ∧ order.head? = some start
  | .error path => ∃ i mid, path = i :: mid ++ [i] ∧ (i :: mid).Nodup ∧ start ∉ mid ∧
      path.IsChain (g.Edge .dependents) ∧ ReflTransGen (g.Edge .dependents) start i

theorem ended_walk (hg : g.WellFormed) (h : Walking g start marks finished stack) :
    Ended g start (walk g marks finished stack) := by
  induction h using Walking.induct hg with
  | last h =>
    rw [walk_leave, walk]
    exact ⟨h.pop, rfl⟩
  | leave h ih =>
    rw [walk_leave]
    exact ih
  | enter h hj ih =>
    rw [walk_enter _ _ _ _ _ hj]
    exact ih
  | @cycle _ _ _ j _ _ h hj =>
    rw [walk_cycle _ _ _ _ _ hj]
    obtain ⟨mid, he, hn, hs, hc, hr⟩ := h.cyclePath_eq hj
    exact ⟨j, mid, he, hn, hs, he ▸ hc, hr⟩
  | skip h hu hp ih =>
    rw [walk_skip _ _ _ _ _ hu hp]
    exact ih

lemma walk_ok (hg : g.WellFormed) (h : Walking g start marks finished stack)
    (hw : walk g marks finished stack = .ok order) :
    Listed g start order ∧ order.head? = some start := by
  have hended := ended_walk hg h
  rwa [hw] at hended

lemma walk_error (hg : g.WellFormed) (h : Walking g start marks finished stack)
    (hw : walk g marks finished stack = .error path) :
    ∃ i mid, path = i :: mid ++ [i] ∧ (i :: mid).Nodup ∧ start ∉ mid ∧
      path.IsChain (g.Edge .dependents) ∧ ReflTransGen (g.Edge .dependents) start i := by
  have hended := ended_walk hg h
  rwa [hw] at hended

lemma walking_start (hg : g.WellFormed) (hs : g.Live start) :
    Walking g start ((Array.replicate g.slotCount Mark.unvisited).setIfInBounds start .onPath) []
      [⟨start, (g.slot start).dependents.toList⟩] := by
  have hlt : start < (Array.replicate g.slotCount Mark.unvisited).size := by
    rw [Array.size_replicate]
    exact hg.slot_lt hs
  have hmark (k : Nat) : (Array.replicate g.slotCount Mark.unvisited)[k]? = some .onPath ∨
      (Array.replicate g.slotCount Mark.unvisited)[k]? = some .done → False := by
    rw [Array.getElem?_replicate]
    split <;> simp
  exact
    { nodup_finished := List.nodup_nil
      topological := trivial
      reached := fun h => (List.not_mem_nil h).elim
      size := by rw [Array.size_setIfInBounds, Array.size_replicate]
      onPath := fun k => by
        rw [marks_set hlt, List.map_singleton, List.mem_singleton]
        split
        · rename_i h
          simp [h]
        · rename_i h
          exact iff_of_false (fun hk => hmark k (Or.inl hk)) (Ne.symm h)
      done := fun k => by
        rw [marks_set hlt]
        split
        · simp
        · exact iff_of_false (fun hk => hmark k (Or.inr hk)) List.not_mem_nil
      nodup := List.nodup_cons.mpr ⟨List.not_mem_nil, List.nodup_nil⟩
      trail := .root ⟨fun h => h, fun h => Or.inl h⟩ rfl }

end Recalculation

end Spreadsheet
