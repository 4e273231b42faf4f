import Spreadsheet.Proofs.Sheet.Recomputed

/-! What a sheet answers to a sequence of requests. A check and a rejected edit leave the pairs of
the graph in other slots than before, and no later answer tells the two sheets apart, except by the
order of names and by the cycle that is found first. -/

namespace Spreadsheet.Sheet

inductive Request where
  | set (name input : String)
  | setFormula (name : String) (f : Formula)
  | check (name input : String)
  | contents (name : String)
  | value (name : String)
  | directDependents (name : String)
  | names
  | toMarkup
  | changed
  | load (text : String)

def Request.Answer : Request → Type
  | set _ _ | setFormula _ _ => Except EditError (List String)
  | check _ _ => Except EditError Unit
  | contents _ => Except EditError Contents
  | value _ => Except EditError Value
  | directDependents _ => Except EditError (List String)
  | names => List String
  | toMarkup => String
  | changed => Bool
  | load _ => Except StorageError Unit

def perform (s : Sheet) : (r : Request) → r.Answer × Sheet
  | .set name input => s.set name input
  | .setFormula name f => s.setFormula name f
  | .check name input => s.check name input
  | .contents name => (s.contents name, s)
  | .value name => (s.value name, s)
  | .directDependents name => (s.directDependents name, s)
  | .names => (s.names, s)
  | .toMarkup => (s.toMarkup, s)
  | .changed => (s.changed, s)
  | .load text => s.load text

abbrev Exchange := (r : Request) × r.Answer

def run (s : Sheet) : List Request → List Exchange × Sheet
  | [] => ([], s)
  | r :: rs =>
    let (answer, s) := s.perform r
    let (exchanges, s) := s.run rs
    (⟨r, answer⟩ :: exchanges, s)

def Silent (s : Sheet) : Request → Prop
  | .set name input => ∃ e, (s.set name input).1 = .error e
  | .setFormula name f => ∃ e, (s.setFormula name f).1 = .error e
  | .check _ _ => True
  | _ => False

/-- The requests are made with any number of silent ones before, between and after them, whose
answers are left out. -/
inductive Padded : Sheet → List Request → List Exchange → Sheet → Prop
  | done (s : Sheet) : Padded s [] [] s
  | request {s t : Sheet} (r : Request) {rs : List Request} {exchanges : List Exchange}
    (h : Padded (s.perform r).2 rs exchanges t) :
    Padded s (r :: rs) (⟨r, (s.perform r).1⟩ :: exchanges) t
  | silent {s t : Sheet} {r : Request} {rs : List Request} {exchanges : List Exchange}
    (hr : s.Silent r) (h : Padded (s.perform r).2 rs exchanges t) : Padded s rs exchanges t

inductive Alike {α : Type} (R : α → α → Prop) : Except EditError α → Except EditError α → Prop
  | ok {a b : α} (h : R a b) : Alike R (.ok a) (.ok b)
  | error (e : EditError) : Alike R (.error e) (.error e)
  | circular (cell : String) (cycle cycle' : Cycle) :
    Alike R (.error (.circular cell cycle)) (.error (.circular cell cycle'))

def Reordered (first : Option String) (order order' : List String) : Prop :=
  order.Perm order' ∧ order.head? = first ∧ order'.head? = first

def Request.Alike (rules : NameRules) : (r : Request) → r.Answer → r.Answer → Prop
  | set name _ | setFormula name _ => Sheet.Alike (Reordered (rules.resolve name))
  | check _ _ => Sheet.Alike Eq
  | directDependents _ => Sheet.Alike List.Perm
  | contents _ | value _ | names | toMarkup | changed | load _ => Eq

inductive Exchange.Alike (rules : NameRules) : Exchange → Exchange → Prop
  | intro {r : Request} {answer answer' : r.Answer} (h : r.Alike rules answer answer') :
    Alike rules ⟨r, answer⟩ ⟨r, answer'⟩

section SameState

variable {s t u : Sheet}

lemma SameDocument.symm (h : SameDocument s t) : SameDocument t s :=
  ⟨h.cells.symm, h.rules.symm, fun x y => (h.pairs x y).symm⟩

lemma SameDocument.trans (h : SameDocument s t) (h' : SameDocument t u) : SameDocument s u where
  cells := h'.cells.trans h.cells
  rules := h'.rules.trans h.rules
  pairs x y := (h'.pairs x y).trans (h.pairs x y)

lemma SameState.refl (s : Sheet) : SameState s s := ⟨⟨rfl, rfl, fun _ _ => Iff.rfl⟩, rfl, rfl⟩

lemma SameState.symm (h : SameState s t) : SameState t s :=
  ⟨h.toSameDocument.symm, h.version.symm, h.changed.symm⟩

lemma SameState.trans (h : SameState s t) (h' : SameState t u) : SameState s u where
  toSameDocument := h.toSameDocument.trans h'.toSameDocument
  version := h'.version.trans h.version
  changed := h'.changed.trans h.changed

lemma Consistent.sameState_tryFormula (hs : s.Consistent) (n : String) (f : Formula) :
    SameState s (s.tryFormula n f).2 := by
  rw [tryFormula_snd]
  exact ⟨⟨rfl, rfl, fun x y => pair_restore hs.graph n _ x y⟩, rfl, rfl⟩

lemma Consistent.sameState_rejected (hs : s.Consistent)
    {result : Except EditError (List String) × Sheet}
    (h : (∃ e, result = (.error e, s)) ∨ ∃ n c, result = s.replace n c)
    (he : ∃ e, result.1 = .error e) : SameState s result.2 := by
  rcases h with ⟨e, rfl⟩ | ⟨n, c, rfl⟩
  · exact .refl s
  · obtain ⟨e, he⟩ := he
    rcases replace_cases hs.graph n c with ⟨cycle, ho⟩ | ⟨order, ho⟩
    · exact hs.sameState_of_error n c ho
    · rw [replace_of_ok ho] at he
      cases he

lemma Consistent.sameState_silent (hs : s.Consistent) {r : Request} (hr : s.Silent r) :
    SameState s (s.perform r).2 := by
  cases r with
  | set name input =>
    exact hs.sameState_rejected
      ((s.set_cases name input).imp_right fun ⟨n, c, _, _, h⟩ => ⟨n, c, h⟩) hr
  | setFormula name f =>
    exact hs.sameState_rejected
      ((s.setFormula_cases name f).imp_right fun ⟨n, f', _, _, h⟩ => ⟨n, .formula f', h⟩) hr
  | check name input =>
    rcases s.check_cases name input with hcheck | ⟨n, f, -, -, hcheck⟩
    · rw [perform, hcheck]
      exact .refl s
    · rw [perform, hcheck]
      exact hs.sameState_tryFormula n f
  | _ => exact hr.elim

end SameState

structure KeptByEdits (R : Sheet → Sheet → Prop) : Prop where
  rules {s t : Sheet} (h : R s t) : t.rules = s.rules
  pair_eq {s t : Sheet} (hs : s.Consistent) (ht : t.Consistent) (h : R s t) :
    t.graph.Pair = s.graph.Pair
  sameState {s s' t t' : Sheet} (hs : SameState s s') (ht : SameState t t') (h : R s t) : R s' t'
  accepted {s t : Sheet} (hs : s.Consistent) (ht : t.Consistent) (h : R s t) {n : String}
    {c : Contents} {order order' : List String}
    (ho : (rewire s.graph n c.references).2 = .ok (n :: order))
    (ho' : (rewire t.graph n c.references).2 = .ok (n :: order')) :
    R (s.replace n c).2 (t.replace n c).2

section Edit

variable {s t : Sheet} (hs : s.Consistent) (ht : t.Consistent)
include hs ht

section Rewire

variable (hpair : t.graph.Pair = s.graph.Pair)
include hpair

lemma rewire_error_congr (n : String) (names : List String) :
    (∃ cycle, (rewire s.graph n names).2 = .error cycle) ↔
      ∃ cycle, (rewire t.graph n names).2 = .error cycle := by
  rw [rewire_error_iff hs.graph n names hs.acyclic, rewire_error_iff ht.graph n names ht.acyclic,
    hpair]

lemma pair_rewire_congr (n : String) (names : List String) :
    (rewire t.graph n names).1.Pair = (rewire s.graph n names).1.Pair := by
  funext x y
  rw [pair_rewire ht.graph, pair_rewire hs.graph, hpair]

lemma reordered_rewire {n : String} {names order order' : List String}
    (ho : (rewire s.graph n names).2 = .ok order) (ho' : (rewire t.graph n names).2 = .ok order') :
    Reordered (some n) order order' := by
  have horder := isOrder_of_rewire hs.graph n names ho
  have horder' := isOrder_of_rewire ht.graph n names ho'
  refine ⟨?_, horder.head, horder'.head⟩
  apply (List.perm_ext_iff_of_nodup horder.nodup horder'.nodup).mpr
  intro m
  rw [horder.mem_iff, horder'.mem_iff, pair_rewire_congr hs ht hpair]

lemma directDependents_alike (hrules : t.rules = s.rules) (name : String) :
    Alike List.Perm (s.directDependents name) (t.directDependents name) := by
  rw [directDependents, directDependents, resolve, resolve, hrules]
  cases s.rules.resolve name with
  | none => exact .error _
  | some n =>
    apply Alike.ok
    apply (List.perm_ext_iff_of_nodup (Graph.nodup_neighbours hs.graph .dependents n)
      (Graph.nodup_neighbours ht.graph .dependents n)).mpr
    intro m
    exact iff_of_eq (congrFun (congrFun hpair.symm n) m)

end Rewire

variable {R : Sheet → Sheet → Prop} (hR : KeptByEdits R) (h : R s t)
include hR h

lemma replace_alike (n : String) (c : Contents) :
    Alike (Reordered (some n)) (s.replace n c).1 (t.replace n c).1 ∧
      R (s.replace n c).2 (t.replace n c).2 := by
  have hpair := hR.pair_eq hs ht h
  have hiff := rewire_error_congr hs ht hpair n c.references
  rcases replace_cases hs.graph n c with ⟨cycle, ho⟩ | ⟨order, ho⟩
  · obtain ⟨cycle', ho'⟩ := hiff.mp ⟨cycle, ho⟩
    refine ⟨?_, hR.sameState (hs.sameState_of_error n c ho) (ht.sameState_of_error n c ho') h⟩
    rw [replace_of_error ho, replace_of_error ho']
    exact .circular n cycle cycle'
  · rcases replace_cases ht.graph n c with hcycle | ⟨order', ho'⟩
    · obtain ⟨cycle, hcycle⟩ := hiff.mpr hcycle
      cases hcycle.symm.trans ho
    · refine ⟨?_, hR.accepted hs ht h ho ho'⟩
      rw [replace_of_ok ho, replace_of_ok ho']
      exact .ok (reordered_rewire hs ht hpair ho ho')

lemma tryFormula_alike (n : String) (f : Formula) :
    Alike Eq (s.tryFormula n f).1 (t.tryFormula n f).1 ∧
      R (s.tryFormula n f).2 (t.tryFormula n f).2 := by
  have hiff := rewire_error_congr hs ht (hR.pair_eq hs ht h) n f.variableNames
  refine ⟨?_, hR.sameState (hs.sameState_tryFormula n f) (ht.sameState_tryFormula n f) h⟩
  simp only [tryFormula]
  cases ho : (rewire s.graph n f.variableNames).2 with
  | error cycle =>
    obtain ⟨cycle', ho'⟩ := hiff.mp ⟨cycle, ho⟩
    rw [ho']
    exact .circular n cycle cycle'
  | ok order =>
    cases ho' : (rewire t.graph n f.variableNames).2 with
    | error cycle =>
      obtain ⟨cycle', hcycle⟩ := hiff.mpr ⟨cycle, ho'⟩
      cases hcycle.symm.trans ho
    | ok order' => exact .ok rfl

lemma set_alike (name input : String) :
    Alike (Reordered (s.rules.resolve name)) (s.set name input).1 (t.set name input).1 ∧
      R (s.set name input).2 (t.set name input).2 := by
  simp only [set, interpret, resolve, hR.rules h]
  cases s.rules.resolve name with
  | none => exact ⟨.error _, h⟩
  | some n =>
    dsimp only
    cases Contents.ofInput s.rules input with
    | error e => exact ⟨.error _, h⟩
    | ok c => exact replace_alike hs ht hR h n c

lemma setFormula_alike (name : String) (f : Formula) :
    Alike (Reordered (s.rules.resolve name)) (s.setFormula name f).1 (t.setFormula name f).1 ∧
      R (s.setFormula name f).2 (t.setFormula name f).2 := by
  simp only [setFormula, resolve, hR.rules h]
  cases s.rules.resolve name with
  | none => exact ⟨.error _, h⟩
  | some n =>
    dsimp only
    cases Formula.parseWithRules s.rules f.canonical with
    | error e => exact ⟨.error _, h⟩
    | ok f' => exact replace_alike hs ht hR h n (.formula f')

lemma check_alike (name input : String) :
    Alike Eq (s.check name input).1 (t.check name input).1 ∧
      R (s.check name input).2 (t.check name input).2 := by
  simp only [check, interpret, resolve, hR.rules h]
  cases s.rules.resolve name with
  | none => exact ⟨.error _, h⟩
  | some n =>
    dsimp only
    cases Contents.ofInput s.rules input with
    | error e => exact ⟨.error _, h⟩
    | ok c =>
      cases c with
      | formula f => exact tryFormula_alike hs ht hR h n f
      | text _ => exact ⟨.ok rfl, h⟩
      | number _ => exact ⟨.ok rfl, h⟩

end Edit

lemma sameDocument_keptByEdits : KeptByEdits SameDocument where
  rules h := h.rules
  pair_eq _ _ h := funext fun x => funext fun y => propext (h.pairs x y)
  sameState hs ht h := (hs.toSameDocument.symm.trans h).trans ht.toSameDocument
  accepted {s t} hs ht h {n c order order'} ho ho' := by
    -- the values follow from the contents, whatever the order in which they were found
    apply (hs.replace n c).sameDocument (ht.replace n c)
    · rw [(s.rules_replace n c).1, (t.rules_replace n c).1, h.rules]
    · rw [names_replace_of_ok ho, names_replace_of_ok ho', h.cells]
    · rw [contents?_replace_of_ok ho, contents?_replace_of_ok ho', h.cells]

lemma sameState_keptByEdits : KeptByEdits SameState where
  rules h := h.rules
  pair_eq hs ht h := sameDocument_keptByEdits.pair_eq hs ht h.toSameDocument
  sameState hs ht h := (hs.symm.trans h).trans ht
  accepted {s t} hs ht h {n c order order'} ho ho' := by
    refine ⟨sameDocument_keptByEdits.accepted hs ht h.toSameDocument ho ho', ?_, ?_⟩
    · rw [(s.rules_replace n c).2, (t.rules_replace n c).2, h.version]
    · rw [replace_of_ok ho, replace_of_ok ho']

section Perform

variable {rules : NameRules} {version : String} {s t : Sheet}

lemma Reachable.perform (h : Reachable rules version s) (r : Request) :
    Reachable rules version (s.perform r).2 := by
  cases r with
  | set name input => exact h.set name input
  | setFormula name f => exact h.setFormula name f
  | check name input => exact h.check name input
  | load text => exact h.load text
  | _ => exact h

lemma SameState.reload_eq (h : SameState s t) (text : String) : t.reload text = s.reload text := by
  rw [reload, reload, h.rules, h.version]

lemma perform_alike (hs : s.Consistent) (ht : t.Consistent) (h : SameState s t) (r : Request) :
    r.Alike s.rules (s.perform r).1 (t.perform r).1 ∧
      SameState (s.perform r).2 (t.perform r).2 := by
  have hR := sameState_keptByEdits
  have hresolve (name : String) : t.resolve name = s.resolve name := by
    rw [resolve, resolve, h.rules]
  have hcell (name : String) : t.cell name = s.cell name := by
    rw [cell, cell, h.cells]
  cases r with
  | set name input => exact set_alike hs ht hR h name input
  | setFormula name f => exact setFormula_alike hs ht hR h name f
  | check name input => exact check_alike hs ht hR h name input
  | contents name =>
    refine ⟨?_, h⟩
    change s.contents name = t.contents name
    simp only [contents, hresolve, hcell]
  | value name =>
    refine ⟨?_, h⟩
    change s.value name = t.value name
    simp only [value, hresolve, hcell]
  | directDependents name =>
    exact ⟨directDependents_alike hs ht (hR.pair_eq hs ht h) h.rules name, h⟩
  | names => exact ⟨(congrArg Cells.names h.cells).symm, h⟩
  | toMarkup => exact ⟨(h.toSameDocument.toMarkup_eq h.version).symm, h⟩
  | changed => exact ⟨h.changed.symm, h⟩
  | load text =>
    simp only [perform, load, h.reload_eq]
    cases s.reload text with
    | error e => exact ⟨rfl, h⟩
    | ok u => exact ⟨rfl, .refl u⟩

lemma Padded.alike {rs : List Request} {exchanges : List Exchange} {u : Sheet}
    (hp : Padded t rs exchanges u) (hs : Reachable rules version s)
    (ht : Reachable rules version t) (h : SameState s t) :
    List.Forall₂ (Exchange.Alike rules) (s.run rs).1 exchanges ∧ SameState (s.run rs).2 u := by
  induction hp generalizing s with
  | done t => exact ⟨.nil, h⟩
  | request r _ ih =>
    obtain ⟨hanswer, hstate⟩ := perform_alike hs.consistent ht.consistent h r
    rw [hs.rules_eq] at hanswer
    obtain ⟨hrest, hend⟩ := ih (hs.perform r) (ht.perform r) hstate
    exact ⟨.cons (.intro hanswer) hrest, hend⟩
  | silent hr _ ih =>
    exact ih hs (ht.perform _) (h.trans (ht.consistent.sameState_silent hr))

theorem Reachable.padding_unobserved (h : Reachable rules version s) {rs : List Request}
    {exchanges : List Exchange} (hp : Padded s rs exchanges t) :
    List.Forall₂ (Exchange.Alike rules) (s.run rs).1 exchanges ∧ SameState (s.run rs).2 t :=
  hp.alike h h (.refl s)

theorem padding_unobserved_of_rejected_edit :
    ∃ s t exchanges, s = ((empty .standard "1.0").set "b1" "=a1").2 ∧
      Reachable .standard "1.0" s ∧ s.Silent (.set "a1" "=b1") ∧
      Padded s [.set "a1" "2", .value "b1"] exchanges t ∧
      List.Forall₂ (Exchange.Alike .standard) (s.run [.set "a1" "2", .value "b1"]).1 exchanges ∧
      SameState (s.run [.set "a1" "2", .value "b1"]).2 t := by
  have h := (@Reachable.empty .standard "1.0").set "b1" "=a1"
  have hr : ((empty .standard "1.0").set "b1" "=a1").2.Silent (.set "a1" "=b1") := by
    refine ⟨.circular "A1" ⟨["A1", "B1", "A1"]⟩, ?_⟩
    cbv
  have hp : Padded ((empty .standard "1.0").set "b1" "=a1").2 [.set "a1" "2", .value "b1"] _ _ :=
    .silent hr (.request _ (.silent (r := .check "c1" "=a1+b1") trivial (.request _ (.done _))))
  exact ⟨_, _, _, rfl, h, hr, hp, h.padding_unobserved hp⟩

end Perform

end Spreadsheet.Sheet
