import Spreadsheet.Proofs.Sheet.Replay
import Spreadsheet.Proofs.Sheet.Unobserved

/-! A sheet is determined by the contents of its cells. Two sheets in which every name has the same
contents answer alike, however they came to have them. -/

namespace Spreadsheet.Sheet

def Request.OnCells : Request → Prop
  | names | toMarkup | changed | load _ => False
  | _ => True

def Request.entered? (rules : NameRules) : Request → Option (String × Contents)
  | set name input => do
    let n ← rules.resolve name
    let c ← (Contents.ofInput rules input).toOption
    return (n, c)
  | setFormula name f => do
    let n ← rules.resolve name
    let f ← (Formula.parseWithRules rules f.canonical).toOption
    return (n, .formula f)
  | _ => none

def Request.target? (rules : NameRules) (r : Request) : Option String :=
  (r.entered? rules).map Prod.fst

def Accepts (s : Sheet) : Request → Prop
  | .set name input => ∃ order, (s.set name input).1 = .ok order
  | .setFormula name f => ∃ order, (s.setFormula name f).1 = .ok order
  | _ => False

def SameReadings (s t : Sheet) : Prop :=
  ∀ name, t.contents name = s.contents name ∧ t.value name = s.value name

structure SameContents (s t : Sheet) : Prop where
  rules : t.rules = s.rules
  contents : t.cells.contents? = s.cells.contents?

section Readings

variable {rules : NameRules} {version version' : String} {s t : Sheet}

lemma contents_cell (s : Sheet) (n : String) :
    (s.cell n).contents = (s.storedContents n).getD .empty := by
  rw [cell, storedContents]
  cases s.cells.get? n <;> rfl

lemma value_cell (s : Sheet) (n : String) : (s.cell n).value = (s.storedValue n).getD .empty := by
  rw [cell, storedValue]
  cases s.cells.get? n <;> rfl

lemma contents_of_resolve {name n : String} (hn : s.rules.resolve name = some n) :
    s.contents name = .ok ((s.storedContents n).getD .empty) := by
  rw [contents, resolve, hn]
  exact congrArg _ (s.contents_cell n)

lemma SameCells.sameReadings (h : SameCells s t) (hrules : t.rules = s.rules) :
    SameReadings s t := by
  intro name
  simp only [Sheet.contents, Sheet.value, resolve, hrules, contents_cell, value_cell, h.contents,
    h.values, and_self]

lemma Enterable.contents?_of_contents (hs : Enterable s.rules s) (hrules : t.rules = s.rules)
    (h : ∀ name, t.contents name = s.contents name) {n : String} {c : Contents}
    (hc : s.cells.contents? n = some c) : t.cells.contents? n = some c := by
  obtain ⟨⟨name, hname⟩, -, hblank⟩ := hs.entered hc
  have hname' : t.rules.resolve name = some n := hrules ▸ hname
  have hstored : s.storedContents n = some c := hc
  have hread := h name
  rw [contents_of_resolve hname, contents_of_resolve hname', hstored] at hread
  have hget : (t.storedContents n).getD .empty = c := Except.ok.inj hread
  change t.storedContents n = some c
  cases ht : t.storedContents n with
  | none =>
    -- a cell that is not stored reads as blank text, and no stored cell does
    rw [ht] at hget
    subst hget
    cases hblank
  | some d =>
    rw [ht] at hget
    exact congrArg some hget

lemma Reachable.sameContents (hs : Reachable rules version s) (ht : Reachable rules version' t)
    (h : ∀ name, t.contents name = s.contents name) : SameContents s t := by
  obtain ⟨rfl, -, hs⟩ := hs.with_invariant (enterable_invariant rules version)
  obtain ⟨hrules, -, ht⟩ := ht.with_invariant (enterable_invariant s.rules version')
  refine ⟨hrules, ?_⟩
  funext n
  apply Option.ext
  intro c
  constructor
  · exact (hrules ▸ ht).contents?_of_contents hrules.symm fun name => (h name).symm
  · exact hs.contents?_of_contents hrules h

end Readings

section Perform

variable {s t : Sheet} (hs : s.Consistent) (ht : t.Consistent)

lemma sameContents_keptByEdits : KeptByEdits SameContents where
  rules h := h.rules
  pair_eq hs ht h := by
    funext x y
    exact propext ((hs.sameCells ht h.contents).pairs x y)
  sameState hs ht h := by
    refine ⟨ht.rules.trans (h.rules.trans hs.rules.symm), ?_⟩
    rw [ht.cells, hs.cells, h.contents]
  accepted {s t} _ _ h {n c order order'} ho ho' := by
    refine ⟨?_, ?_⟩
    · rw [(s.rules_replace n c).1, (t.rules_replace n c).1, h.rules]
    · rw [contents?_replace_of_ok ho, contents?_replace_of_ok ho']
      funext m
      rw [Cells.contents?_stored, Cells.contents?_stored, h.contents]

include hs ht

lemma SameContents.sameReadings (h : SameContents s t) : SameReadings s t :=
  (hs.sameCells ht h.contents).sameReadings h.rules

lemma SameContents.perform_alike (h : SameContents s t) {r : Request} (hr : r.OnCells) :
    r.Alike s.rules (s.perform r).1 (t.perform r).1 ∧
      SameContents (s.perform r).2 (t.perform r).2 := by
  have hR := sameContents_keptByEdits
  cases r with
  | set name input => exact set_alike hs ht hR h name input
  | setFormula name f => exact setFormula_alike hs ht hR h name f
  | check name input => exact check_alike hs ht hR h name input
  | contents name => exact ⟨(h.sameReadings hs ht name).1.symm, h⟩
  | value name => exact ⟨(h.sameReadings hs ht name).2.symm, h⟩
  | directDependents name =>
    exact ⟨directDependents_alike hs ht (hR.pair_eq hs ht h) h.rules name, h⟩
  | names | toMarkup | changed | load _ => exact hr.elim

end Perform

section Run

variable {rules : NameRules} {version version' : String} {s t : Sheet}

lemma Reachable.run (h : Reachable rules version s) (rs : List Request) :
    Reachable rules version (s.run rs).2 := by
  induction rs generalizing s with
  | nil => exact h
  | cons r rs ih => exact ih (h.perform r)

lemma Reachable.run_alike (hs : Reachable rules version s) (ht : Reachable rules version' t)
    (h : SameContents s t) {rs : List Request} (hrs : ∀ r ∈ rs, r.OnCells) :
    List.Forall₂ (Exchange.Alike rules) (s.run rs).1 (t.run rs).1 ∧
      SameContents (s.run rs).2 (t.run rs).2 := by
  induction rs generalizing s t with
  | nil => exact ⟨.nil, h⟩
  | cons r rs ih =>
    obtain ⟨hr, hrs⟩ := List.forall_mem_cons.mp hrs
    obtain ⟨hanswer, hnext⟩ := h.perform_alike hs.consistent ht.consistent hr
    rw [hs.rules_eq] at hanswer
    obtain ⟨hrest, hend⟩ := ih (hs.perform r) (ht.perform r) hnext hrs
    exact ⟨.cons (.intro hanswer) hrest, hend⟩

end Run

section Commute

variable {rules : NameRules} {version version' : String} {s t : Sheet} {r r' : Request}

lemma Consistent.contents?_replace_of_accepted (hs : s.Consistent) {n : String} {c : Contents}
    (h : ∃ order, (s.replace n c).1 = .ok order) :
    (s.replace n c).2.cells.contents? = (s.cells.stored n c).contents? := by
  rcases replace_cases hs.graph n c with ⟨cycle, ho⟩ | ⟨order, ho⟩
  · rw [replace_of_error ho] at h
    obtain ⟨order, h⟩ := h
    cases h
  · exact contents?_replace_of_ok ho

lemma Consistent.contents?_of_accepts (hs : s.Consistent) (hr : s.Accepts r) :
    ∃ n c, r.entered? s.rules = some (n, c) ∧
      (s.perform r).2.cells.contents? = (s.cells.stored n c).contents? := by
  cases r with
  | set name input =>
    rcases s.set_cases name input with ⟨e, hset⟩ | ⟨n, c, hn, hc, hset⟩
    · rw [Accepts, hset] at hr
      obtain ⟨order, hr⟩ := hr
      cases hr
    · rw [Accepts, hset] at hr
      refine ⟨n, c, ?_, ?_⟩
      · rw [Request.entered?, hn, hc]
        rfl
      · rw [perform, hset]
        exact hs.contents?_replace_of_accepted hr
  | setFormula name f =>
    rcases s.setFormula_cases name f with ⟨e, hset⟩ | ⟨n, f', hn, hf, hset⟩
    · rw [Accepts, hset] at hr
      obtain ⟨order, hr⟩ := hr
      cases hr
    · rw [Accepts, hset] at hr
      refine ⟨n, .formula f', ?_, ?_⟩
      · rw [Request.entered?, hn, hf]
        rfl
      · rw [perform, hset]
        exact hs.contents?_replace_of_accepted hr
  | _ => exact hr.elim

lemma stored_comm {cells cells' : Cells} (h : cells'.contents? = cells.contents?) {n n' : String}
    (hn : n ≠ n') (c c' : Contents) {one other : Cells}
    (hone : one.contents? = (cells.stored n c).contents?)
    (hother : other.contents? = (cells'.stored n' c').contents?) :
    (other.stored n c).contents? = (one.stored n' c').contents? := by
  funext m
  rw [Cells.contents?_stored, Cells.contents?_stored, hone, hother, Cells.contents?_stored,
    Cells.contents?_stored, h]
  by_cases hm : m = n
  · subst hm
    rw [if_pos rfl, if_neg hn, if_pos rfl]
  · rw [if_neg hm, if_neg hm]

lemma Reachable.sameContents_commuted (hs : Reachable rules version s)
    (ht : Reachable rules version' t) (h : SameContents s t)
    (htarget : r.target? rules ≠ r'.target? rules) (hr : s.Accepts r)
    (hr' : (s.perform r).2.Accepts r') (ht' : t.Accepts r') (htr : (t.perform r').2.Accepts r) :
    SameContents ((s.perform r).2.perform r').2 ((t.perform r').2.perform r).2 := by
  have hsr := hs.perform r
  have htr' := ht.perform r'
  refine ⟨(htr'.perform r).rules_eq.trans (hsr.perform r').rules_eq.symm, ?_⟩
  obtain ⟨n, c, hentered, hone⟩ := hs.consistent.contents?_of_accepts hr
  obtain ⟨n', c', hentered', hboth⟩ := hsr.consistent.contents?_of_accepts hr'
  obtain ⟨m', d', hm', hother⟩ := ht.consistent.contents?_of_accepts ht'
  obtain ⟨m, d, hm, hboth'⟩ := htr'.consistent.contents?_of_accepts htr
  rw [hs.rules_eq] at hentered
  rw [hsr.rules_eq] at hentered'
  rw [ht.rules_eq] at hm'
  rw [htr'.rules_eq] at hm
  obtain ⟨rfl, rfl⟩ := Prod.mk.inj (Option.some.inj (hentered.symm.trans hm))
  obtain ⟨rfl, rfl⟩ := Prod.mk.inj (Option.some.inj (hentered'.symm.trans hm'))
  have hn : n ≠ n' := by
    rintro rfl
    rw [Request.target?, Request.target?, hentered, hentered'] at htarget
    exact htarget rfl
  rw [hboth, hboth']
  exact stored_comm h.contents hn c c' hone hother

end Commute

theorem Reachable.determined_by_contents {rules : NameRules} {version version' : String}
    {s t : Sheet} (hs : Reachable rules version s) (ht : Reachable rules version' t)
    (h : ∀ name, t.contents name = s.contents name) :
    (∀ name, t.value name = s.value name) ∧
    (∀ name, Alike List.Perm (s.directDependents name) (t.directDependents name)) ∧
    (∀ rs : List Request, (∀ r ∈ rs, r.OnCells) →
      List.Forall₂ (Exchange.Alike rules) (s.run rs).1 (t.run rs).1 ∧
        SameReadings (s.run rs).2 (t.run rs).2) ∧
    ∀ r r' : Request, r.target? rules ≠ r'.target? rules →
      s.Accepts r → (s.perform r).2.Accepts r' → t.Accepts r' → (t.perform r').2.Accepts r →
      SameReadings (s.run [r, r']).2 (t.run [r', r]).2 := by
  have hsame := hs.sameContents ht h
  refine ⟨fun name => ?_, fun name => ?_, fun rs hrs => ?_, fun r r' htarget hr hr' ht' htr => ?_⟩
  · exact (hsame.sameReadings hs.consistent ht.consistent name).2
  · exact directDependents_alike hs.consistent ht.consistent
      (sameContents_keptByEdits.pair_eq hs.consistent ht.consistent hsame) hsame.rules name
  · obtain ⟨hanswers, hend⟩ := hs.run_alike ht hsame hrs
    exact ⟨hanswers, hend.sameReadings (hs.run rs).consistent (ht.run rs).consistent⟩
  · have hend := hs.sameContents_commuted ht hsame htarget hr hr' ht' htr
    exact hend.sameReadings ((hs.perform r).perform r').consistent
      ((ht.perform r').perform r).consistent

theorem determined_by_contents_of_either_order :
    ∃ s t, s = (((empty .standard "1.0").set "b1" "=a1").2.set "a1" "one").2 ∧
      t = (((empty .standard "2.0").set "a1" "one").2.set "b1" "=a1").2 ∧
      Reachable .standard "1.0" s ∧ Reachable .standard "2.0" t ∧
      s.names = ["B1", "A1"] ∧ t.names = ["A1", "B1"] ∧
      (∀ name, t.contents name = s.contents name) ∧ (∀ name, t.value name = s.value name) ∧
      List.Forall₂ (Exchange.Alike .standard) (s.run [.set "a1" "=b1", .value "b1"]).1
        (t.run [.set "a1" "=b1", .value "b1"]).1 := by
  let r : Request := .set "b1" "=a1"
  let r' : Request := .set "a1" "one"
  have hempty := @Reachable.empty .standard "1.0"
  have hempty' := @Reachable.empty .standard "2.0"
  have htarget : r.target? .standard ≠ r'.target? .standard := by
    have hb : r.target? .standard = some "B1" := by cbv
    have ha : r'.target? .standard = some "A1" := by cbv
    rw [hb, ha]
    decide
  have hr : (empty .standard "1.0").Accepts r := ⟨["B1"], by cbv⟩
  have hr' : ((empty .standard "1.0").perform r).2.Accepts r' := ⟨["A1", "B1"], by cbv⟩
  have ht' : (empty .standard "2.0").Accepts r' := ⟨["A1"], by cbv⟩
  have htr : ((empty .standard "2.0").perform r').2.Accepts r := ⟨["B1"], by cbv⟩
  have hs := (hempty.perform r).perform r'
  have ht := (hempty'.perform r').perform r
  have hsame := hempty.sameContents_commuted hempty' ⟨rfl, rfl⟩ htarget hr hr' ht' htr
  have hcontents (name : String) := (hsame.sameReadings hs.consistent ht.consistent name).1
  obtain ⟨hvalue, -, hrun, -⟩ := hs.determined_by_contents ht hcontents
  have hnames : (((empty .standard "1.0").perform r).2.perform r').2.names = ["B1", "A1"] := by cbv
  have hnames' : (((empty .standard "2.0").perform r').2.perform r).2.names = ["A1", "B1"] := by
    cbv
  refine ⟨_, _, rfl, rfl, hs, ht, hnames, hnames', hcontents, hvalue, (hrun _ ?_).1⟩
  intro q hq
  fin_cases hq <;> trivial

end Spreadsheet.Sheet
