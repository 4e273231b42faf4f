import Mathlib
import Spreadsheet.Proofs.Graph.Walk

namespace Spreadsheet

open Relation

lemma transGen_of_isChain {α : Type} {r : α → α → Prop} {a b : α} {mid : List α}
    (h : (a :: mid ++ [b]).IsChain r) : TransGen r a b := by
  induction mid generalizing a with
  | nil => exact .single (List.isChain_pair.mp h)
  | cons c mid ih =>
    obtain ⟨hac, h⟩ := List.isChain_cons_cons.mp h
    exact .head hac (ih h)

namespace Graph

open Recalculation

structure IsOrder (g : Graph) (start : String) (order : List String) : Prop where
  head : order.head? = some start
  nodup : order.Nodup
  topological : Topological g.Pair order
  reached {n : String} (h : n ∈ order) : ReflTransGen g.Pair start n

structure IsCycle (g : Graph) (start : String) (path : List String) : Prop where
  closed : ∃ n mid, path = n :: mid ++ [n] ∧ (n :: mid).Nodup ∧ start ∉ mid ∧
    ReflTransGen g.Pair start n
  isChain : path.IsChain g.Pair

lemma IsOrder.mem_iff {g : Graph} {start : String} {order : List String}
    (h : g.IsOrder start order) (n : String) : n ∈ order ↔ ReflTransGen g.Pair start n :=
  ⟨h.reached, h.topological.mem_of_reflTransGen (List.mem_of_head? h.head)⟩

lemma IsOrder.not_transGen_self {g : Graph} {start : String} {order : List String}
    (h : g.IsOrder start order) {n : String} (hn : ReflTransGen g.Pair start n) :
    ¬ TransGen g.Pair n n :=
  h.topological.not_transGen_self h.nodup ((h.mem_iff n).mpr hn)

section Names

variable {g : Graph} (h : g.WellFormed)
include h

lemma pair_of_edge {i j : Nat} (he : g.Edge .dependents i j) :
    g.Pair (g.nameOf i) (g.nameOf j) :=
  (pair_iff h _ _).mpr ⟨i, j, h.live_of_edge he, h.live_right he, he⟩

lemma edge_of_pair {i : Nat} (hi : g.Live i) {t : String} (ht : g.Pair (g.nameOf i) t) :
    ∃ j, g.Edge .dependents i j ∧ g.nameOf j = t := by
  obtain ⟨i', j, hi', hj, he⟩ := (pair_iff h _ _).mp ht
  obtain rfl := Option.some.inj (hi.symm.trans hi')
  exact ⟨j, he, h.nameOf_slot hj⟩

lemma reflTransGen_pair {i j : Nat} (hij : ReflTransGen (g.Edge .dependents) i j) :
    ReflTransGen g.Pair (g.nameOf i) (g.nameOf j) :=
  hij.lift g.nameOf fun _ _ he => pair_of_edge h he

lemma live_of_reflTransGen {i j : Nat} (hi : g.Live i)
    (hij : ReflTransGen (g.Edge .dependents) i j) : g.Live j := by
  induction hij with
  | refl => exact hi
  | tail _ he _ => exact h.live_right he

lemma live_of_isChain {i : Nat} {is : List Nat} (hc : (i :: is).IsChain (g.Edge .dependents))
    (hi : g.Live i) : ∀ k ∈ i :: is, g.Live k :=
  hc.induction g.Live _ (fun _ _ he _ => h.live_right he) fun _ => hi

lemma topological_nameOf {is : List Nat} (ht : Topological (g.Edge .dependents) is)
    (hl : ∀ i ∈ is, g.Live i) : Topological g.Pair (is.map g.nameOf) := by
  induction is with
  | nil => trivial
  | cons i is ih =>
    refine ⟨fun t hp => ?_, ih ht.2 fun j hj => hl j (List.mem_cons_of_mem i hj)⟩
    obtain ⟨j, he, rfl⟩ := edge_of_pair h (hl i List.mem_cons_self) hp
    exact List.mem_map_of_mem (ht.1 j he)

lemma isOrder_of_listed {i : Nat} {is : List Nat} (hi : g.Live i) (hl : Listed g i is)
    (hhead : is.head? = some i) : g.IsOrder (g.nameOf i) (is.map g.nameOf) := by
  have hlive (j : Nat) (hj : j ∈ is) : g.Live j := live_of_reflTransGen h hi (hl.reached hj)
  refine ⟨?_, nodup_nameOf hl.nodup_finished hlive, topological_nameOf h hl.topological hlive,
    fun hn => ?_⟩
  · rw [List.head?_map, hhead, Option.map_some]
  · obtain ⟨j, hj, rfl⟩ := List.mem_map.mp hn
    exact reflTransGen_pair h (hl.reached hj)

lemma isCycle_of_closed {i j : Nat} {mid : List Nat} (hi : g.Live i) (hn : (j :: mid).Nodup)
    (hm : i ∉ mid) (hc : (j :: mid ++ [j]).IsChain (g.Edge .dependents))
    (hr : ReflTransGen (g.Edge .dependents) i j) :
    g.IsCycle (g.nameOf i) ((j :: mid ++ [j]).map g.nameOf) := by
  have hlive : ∀ k ∈ j :: mid, g.Live k :=
    live_of_isChain h hc.left_of_append (live_of_reflTransGen h hi hr)
  refine ⟨⟨g.nameOf j, mid.map g.nameOf, ?_, nodup_nameOf hn hlive, ?_, reflTransGen_pair h hr⟩,
    ?_⟩
  · rw [List.map_append, List.map_cons, List.map_singleton]
  · intro hmem
    obtain ⟨k, hk, hki⟩ := List.mem_map.mp hmem
    have hlk := hlive k (List.mem_cons_of_mem j hk)
    rw [Live, hki] at hlk
    exact hm (Option.some.inj (hlk.symm.trans hi) ▸ hk)
  · exact List.isChain_map_of_isChain g.nameOf (fun _ _ he => pair_of_edge h he) hc

variable {start : String}

lemma not_pair_of_unknown (hs : g.slotOf? start = none) (t : String) : ¬ g.Pair start t := by
  intro hp
  obtain ⟨i, -, hi, -, -⟩ := (pair_iff h _ _).mp hp
  cases hs.symm.trans hi

theorem isOrder_of_ok {order : List String} (ho : g.recalculationOrder start = .ok order) :
    g.IsOrder start order := by
  rw [recalculationOrder] at ho
  split at ho
  · rename_i hs
    obtain rfl := Except.ok.inj ho
    refine ⟨rfl, List.nodup_cons.mpr ⟨List.not_mem_nil, List.nodup_nil⟩,
      ⟨fun t ht => (not_pair_of_unknown h hs t ht).elim, trivial⟩, fun hn => ?_⟩
    rw [List.mem_singleton.mp hn]
  · rename_i i hs
    have hi := h.live_of_slot hs
    obtain rfl := h.nameOf_slot hs
    dsimp only at ho
    split at ho
    · rename_i is hw
      obtain rfl := Except.ok.inj ho
      obtain ⟨hl, hhead⟩ := walk_ok h (walking_start h hi) hw
      exact isOrder_of_listed h hi hl hhead
    · cases ho

theorem isCycle_of_error {cycle : Cycle} (ho : g.recalculationOrder start = .error cycle) :
    g.IsCycle start cycle.path := by
  rw [recalculationOrder] at ho
  split at ho
  · cases ho
  · rename_i i hs
    have hi := h.live_of_slot hs
    obtain rfl := h.nameOf_slot hs
    dsimp only at ho
    split at ho
    · cases ho
    · rename_i path hw
      obtain rfl := Except.error.inj ho
      obtain ⟨j, mid, rfl, hn, hm, hc, hr⟩ := walk_error h (walking_start h hi) hw
      exact isCycle_of_closed h hi hn hm hc hr

theorem exists_error_iff : (∃ cycle, g.recalculationOrder start = .error cycle) ↔
    ∃ n, ReflTransGen g.Pair start n ∧ TransGen g.Pair n n := by
  constructor
  · rintro ⟨cycle, ho⟩
    have hcycle := isCycle_of_error h ho
    obtain ⟨n, mid, hp, -, -, hn⟩ := hcycle.closed
    exact ⟨n, hn, transGen_of_isChain (hp ▸ hcycle.isChain)⟩
  · rintro ⟨n, hn, hself⟩
    cases ho : g.recalculationOrder start with
    | error cycle => exact ⟨cycle, rfl⟩
    | ok order => exact ((isOrder_of_ok h ho).not_transGen_self hn hself).elim

end Names

end Graph

end Spreadsheet
