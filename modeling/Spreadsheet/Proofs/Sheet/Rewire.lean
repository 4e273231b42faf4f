import Spreadsheet.Proofs.Graph.Order
import Spreadsheet.Sheet.Edit

/-! Giving a name new dependees in a graph without cycles. A cycle of the new graph goes through
that name, so a search from it alone is enough, and it ends where it began. -/

namespace Spreadsheet

open Relation

section Redirect

variable {r r' : String → String → Prop} {n : String} {ss : List String}
  (hr : ∀ a b, r' a b ↔ if b = n then a ∈ ss else r a b)
include hr

lemma redirect_of_ne {a b : String} (hb : b ≠ n) : r' a b ↔ r a b := by
  rw [hr, if_neg hb]

lemma transGen_redirect {a b : String} (h : TransGen r' a b) :
    TransGen r a b ∨ TransGen r' a n ∧ ReflTransGen r' n b := by
  induction h with
  | @single b h =>
    by_cases hb : b = n
    · subst hb
      exact Or.inr ⟨.single h, .refl⟩
    · exact Or.inl (.single ((redirect_of_ne hr hb).mp h))
  | @tail b c hab h ih =>
    by_cases hc : c = n
    · subst hc
      exact Or.inr ⟨hab.tail h, .refl⟩
    · rcases ih with ih | ⟨han, hnb⟩
      · exact Or.inl (ih.tail ((redirect_of_ne hr hc).mp h))
      · exact Or.inr ⟨han, hnb.tail h⟩

lemma reflTransGen_of_redirect {b : String} (h : ReflTransGen r' n b) : ReflTransGen r n b := by
  induction h with
  | refl => exact .refl
  | @tail b c _ h ih =>
    by_cases hc : c = n
    · rw [hc]
    · exact ih.tail ((redirect_of_ne hr hc).mp h)

variable (hacyclic : ∀ a, ¬ TransGen r a a)
include hacyclic

lemma reflTransGen_redirect {b : String} (h : ReflTransGen r n b) : ReflTransGen r' n b := by
  induction h with
  | refl => exact .refl
  | @tail b c hnb h ih =>
    have hc : c ≠ n := by
      rintro rfl
      exact hacyclic c (.tail' hnb h)
    exact ih.tail ((redirect_of_ne hr hc).mpr h)

lemma transGen_redirect_self {a : String} (h : TransGen r' a a) : TransGen r' n n := by
  obtain ⟨han, hna⟩ := (transGen_redirect hr h).resolve_left (hacyclic a)
  exact .trans_right hna han

lemma transGen_redirect_iff : TransGen r' n n ↔ ∃ x ∈ ss, ReflTransGen r n x := by
  constructor
  · intro h
    obtain ⟨x, hnx, hxn⟩ := TransGen.tail'_iff.mp h
    rw [hr, if_pos rfl] at hxn
    exact ⟨x, hxn, reflTransGen_of_redirect hr hnx⟩
  · rintro ⟨x, hx, hnx⟩
    exact .tail' (reflTransGen_redirect hr hacyclic hnx) ((hr x n).mpr (by rwa [if_pos rfl]))

end Redirect

namespace Sheet

variable {g : Graph} (h : g.WellFormed) (n : String) (ss : List String)
include h

lemma rewire_wellFormed : (rewire g n ss).1.WellFormed := h.replaceDependees n ss

lemma pair_rewire (a b : String) :
    (rewire g n ss).1.Pair a b ↔ if b = n then a ∈ ss else g.Pair a b :=
  Graph.pair_replaceDependees h n ss a b

lemma isOrder_of_rewire {order : List String} (ho : (rewire g n ss).2 = .ok order) :
    (rewire g n ss).1.IsOrder n order := Graph.isOrder_of_ok (h.replaceDependees n ss) ho

lemma isCycle_of_rewire {cycle : Cycle} (ho : (rewire g n ss).2 = .error cycle) :
    (rewire g n ss).1.IsCycle n cycle.path := Graph.isCycle_of_error (h.replaceDependees n ss) ho

lemma pair_restore (a b : String) :
    ((rewire g n ss).1.replaceDependees n (g.dependees n)).Pair a b ↔ g.Pair a b := by
  rw [Graph.pair_replaceDependees (rewire_wellFormed h n ss)]
  split
  · rename_i hb
    rw [hb, Graph.mem_dependees_iff h]
  · rename_i hb
    rw [pair_rewire h, if_neg hb]

variable (hacyclic : ∀ a, ¬ TransGen g.Pair a a)
include hacyclic

lemma acyclic_rewire {order : List String} (ho : (rewire g n ss).2 = .ok order) (a : String) :
    ¬ TransGen (rewire g n ss).1.Pair a a := fun ha =>
  (isOrder_of_rewire h n ss ho).not_transGen_self .refl
    (transGen_redirect_self (pair_rewire h n ss) hacyclic ha)

lemma cycle_path_of_rewire {cycle : Cycle} (ho : (rewire g n ss).2 = .error cycle) :
    ∃ mid, cycle.path = n :: mid ++ [n] ∧ (n :: mid).Nodup := by
  obtain ⟨⟨m, mid, hp, hn, hmid, -⟩, hchain⟩ := isCycle_of_rewire h n ss ho
  have hm : m = n := by
    by_contra hm
    rw [hp] at hchain
    -- no pair of the cycle ends in `n`, so that the old graph has it
    have hold : (m :: mid ++ [m]).IsChain g.Pair := by
      apply hchain.imp_of_mem_tail_imp
      intro a b _ hb hab
      have hbn : b ≠ n := by
        rintro rfl
        rcases List.mem_append.mp hb with hb | hb
        · exact hmid hb
        · exact hm (List.mem_singleton.mp hb).symm
      exact (redirect_of_ne (pair_rewire h n ss) hbn).mp hab
    exact hacyclic m (transGen_of_isChain hold)
  exact ⟨mid, hm ▸ hp, hm ▸ hn⟩

lemma rewire_error_iff : (∃ cycle, (rewire g n ss).2 = .error cycle) ↔
    ∃ x ∈ ss, ReflTransGen g.Pair n x := by
  rw [← transGen_redirect_iff (pair_rewire h n ss) hacyclic]
  apply (Graph.exists_error_iff (rewire_wellFormed h n ss)).trans
  constructor
  · rintro ⟨m, -, hm⟩
    exact transGen_redirect_self (pair_rewire h n ss) hacyclic hm
  · exact fun hn => ⟨n, .refl, hn⟩

end Sheet

end Spreadsheet
