import Mathlib
import Spreadsheet.Proofs.Sheet.Circular

/-! The values of a sheet are determined by its contents: references without a cycle between
finitely many cells are well-founded, and two solutions agree by induction along them. -/

namespace Spreadsheet

open Relation

lemma Meaning.Solves.unique {cells : Cells} (hwf : WellFounded cells.Refers)
    {values values' : String → Option Value} (h : Solves cells.contents? values)
    (h' : Solves cells.contents? values') : values = values' := by
  funext n
  induction n using hwf.induction with
  | h n ih =>
    rw [h n, h' n]
    cases hc : cells.contents? n with
    | none => rfl
    | some c =>
      have hvalue : value values c = value values' c := by
        rw [value_eq, value_eq]
        apply Contents.value_congr
        intro x hx
        rw [number?, number?, ih x ⟨c, hc, hx⟩]
      rw [Option.map_some, Option.map_some, hvalue]

namespace Cells

lemma mem_names_of_refers {cells : Cells} {x t : String} (h : cells.Refers x t) :
    t ∈ cells.names := by
  obtain ⟨c, hc, -⟩ := h
  by_contra hn
  rw [contents?, (get?_eq_none cells t).mpr hn] at hc
  cases hc

lemma wellFounded_refers {cells : Cells} (h : ∀ n, ¬ TransGen cells.Refers n n) :
    WellFounded cells.Refers := by
  have hout {t : String} (ht : t ∉ cells.names) : Acc cells.Refers t :=
    Acc.intro t fun x hx => (ht (mem_names_of_refers hx)).elim
  let r (a b : {n // n ∈ cells.names}) : Prop := TransGen cells.Refers a b
  have htrans : IsTrans _ r := ⟨fun _ _ _ => TransGen.trans⟩
  have hirrefl : Std.Irrefl r := ⟨fun a => h a⟩
  have hfinite : Finite {n // n ∈ cells.names} := cells.names.finite_toSet
  have hin (t : {n // n ∈ cells.names}) : Acc cells.Refers t := by
    induction t using (Finite.wellFounded_of_trans_of_irrefl r).induction with
    | h t ih =>
      apply Acc.intro t.1
      intro x hx
      by_cases hm : x ∈ cells.names
      · exact ih ⟨x, hm⟩ (.single hx)
      · exact hout hm
  refine ⟨fun t => ?_⟩
  by_cases ht : t ∈ cells.names
  · exact hin ⟨t, ht⟩
  · exact hout ht

end Cells

namespace Sheet

lemma Consistent.wellFounded {s : Sheet} (h : s.Consistent) : WellFounded s.cells.Refers := by
  have hpair : s.graph.Pair = s.cells.Refers :=
    funext fun x => funext fun t => propext (h.mirrors x t)
  exact Cells.wellFounded_refers (hpair ▸ h.acyclic)

structure SameCells (s t : Sheet) : Prop where
  contents : t.storedContents = s.storedContents
  values : t.storedValue = s.storedValue
  pairs (x y : String) : y ∈ t.graph.dependents x ↔ y ∈ s.graph.dependents x

lemma Consistent.sameCells {s t : Sheet} (hs : s.Consistent) (ht : t.Consistent)
    (hcontents : t.cells.contents? = s.cells.contents?) : SameCells s t where
  contents := hcontents
  values := by
    have hsolves : Meaning.Solves s.cells.contents? t.cells.value? := hcontents ▸ ht.solves
    exact Meaning.Solves.unique hs.wellFounded hsolves hs.solves
  pairs x y := by
    refine (ht.mirrors x y).trans (Iff.trans ?_ (hs.mirrors x y).symm)
    rw [Cells.Refers, hcontents, Cells.Refers]

lemma Consistent.sameDocument {s t : Sheet} (hs : s.Consistent) (ht : t.Consistent)
    (hrules : t.rules = s.rules) (hnames : t.cells.names = s.cells.names)
    (hcontents : t.cells.contents? = s.cells.contents?) : SameDocument s t := by
  have hcells := hs.sameCells ht hcontents
  exact ⟨Cells.eq_of_get? ht.names hnames (Cells.get?_eq_of_parts hcontents hcells.values), hrules,
    hcells.pairs⟩

variable {rules : NameRules} {version : String} {s : Sheet}

theorem Reachable.solves_iff (h : Reachable rules version s) (values : String → Option Value) :
    Meaning.Solves s.storedContents values ↔ values = s.storedValue := by
  constructor
  · intro hv
    exact Meaning.Solves.unique h.consistent.wellFounded hv h.consistent.solves
  · rintro rfl
    exact h.consistent.solves

theorem solves_iff_after_dependee_changes :
    ∃ s, s = (((empty .standard "1.0").set "b1" "=a1").2.set "A1" "one").2 ∧
      Reachable .standard "1.0" s ∧ s.storedValue "A1" = some (.text "one") ∧
      Meaning.Solves s.storedContents s.storedValue ∧
      ¬ Meaning.Solves s.storedContents fun _ => none := by
  refine ⟨_, rfl, ?_⟩
  have h := (@Reachable.empty .standard "1.0").set "b1" "=a1" |>.set "A1" "one"
  have hvalue : (((empty .standard "1.0").set "b1" "=a1").2.set "A1" "one").2.storedValue "A1" =
      some (.text "one") := by cbv
  refine ⟨h, hvalue, (h.solves_iff _).mpr rfl, fun hnone => ?_⟩
  have hone := congrFun ((h.solves_iff _).mp hnone) "A1"
  rw [hvalue] at hone
  cases hone

end Sheet

end Spreadsheet
