import Mathlib
import Spreadsheet.Proofs.Except
import Spreadsheet.Proofs.Markup.Attribute

/-! A document is read from exactly the events that the grammar derives it from. One direction
follows a derivation, element by element; for the other, each scope says what must have been read to
come to it, and which elements are open. -/

namespace Spreadsheet

lemma Field.eq_or_eq_other (first field : Field) : field = first ∨ field = first.other := by
  cases first <;> cases field <;> simp [Field.other]

lemma Markup.foldlM_nest_of_readAll {cs : List Char} {opened : List String}
    (h : (readAll opened cs).2 = none) :
    ∃ names, (readAll opened cs).1.foldlM nest opened = .ok names := by
  fun_induction readAll opened cs with
  | case1 opened => exact ⟨opened, rfl⟩
  | case2 => cases h
  | case3 => cases h
  | case4 opened c cs event rest _ inner hnest events stop hrest ih =>
    rw [hrest] at ih
    obtain ⟨names, hnames⟩ := ih h
    refine ⟨names, ?_⟩
    rw [List.foldlM_cons, hnest]
    exact hnames

namespace Document

open Markup

lemma unescaped_eq_ok_iff {raw cs : List Char} :
    unescaped raw = .ok cs ↔ unescape raw = .ok cs := by
  rw [unescaped]
  cases unescape raw with
  | error e => simp [Except.mapError]
  | ok cs' => simp [Except.mapError]

lemma versionOf_eq_ok_iff {attributes : List Char} {version : String} :
    versionOf attributes = .ok version ↔ VersionAttribute attributes version := by
  constructor
  · intro h
    rw [versionOf] at h
    split at h
    · cases h
    · cases h
    · rename_i found hfound
      obtain ⟨-, hfirst⟩ := findAttribute_eq_some_iff.mp hfound
      obtain ⟨cs, hraw, rfl⟩ := Except.map_eq_ok_iff.mp h
      exact ⟨found.raw, cs, hfirst, unescaped_eq_ok_iff.mp hraw, rfl⟩
  · rintro ⟨raw, cs, hfirst, hraw, rfl⟩
    have hfound : findAttribute "version".toList attributes = .ok (some ⟨"version".toList, raw⟩) :=
      findAttribute_eq_some_iff.mpr ⟨rfl, hfirst⟩
    rw [versionOf, hfound]
    exact Except.map_eq_ok_iff.mpr ⟨cs, unescaped_eq_ok_iff.mpr hraw, rfl⟩

section Append

variable {e e' : List Event}

lemma Indentation.append (h : Indentation e) (h' : Indentation e') : Indentation (e ++ e') :=
  List.forall_mem_append.mpr ⟨h, h'⟩

lemma Indentation.nil : Indentation [] := fun _ h => (List.not_mem_nil h).elim

lemma Indentation.text {raw : List Char} (h : raw.all isIndent = true) : Indentation [.text raw] :=
  List.forall_mem_singleton.mpr ⟨raw, rfl, h⟩

lemma Characters.append {cs cs' : List Char} (h : Characters e cs) (h' : Characters e' cs') :
    Characters (e ++ e') (cs ++ cs') := by
  induction h with
  | nil => exact h'
  | text hraw _ ih =>
    rw [List.append_assoc]
    exact .text hraw ih
  | characterData _ ih =>
    rw [List.append_assoc]
    exact .characterData ih

lemma CellElements.append {rs rs' : List Record} (h : CellElements rs e)
    (h' : CellElements rs' e') : CellElements (rs ++ rs') (e ++ e') := by
  induction h with
  | nil => exact h'
  | indent hraw _ ih => exact .indent hraw ih
  | cell hcell _ ih =>
    rw [List.append_assoc]
    exact .cell hcell ih

end Append

section Complete

variable {v : String} {rs : List Record} {events events' : List Event} {p p' : Progress}

lemma foldlM_cons_ok {event : Event} (h : step p event = .ok p') :
    (event :: events).foldlM step p = events.foldlM step p' := by
  rw [List.foldlM_cons, h]
  rfl

lemma foldlM_append_ok (h : events.foldlM step p = .ok p') :
    (events ++ events').foldlM step p = events'.foldlM step p' := by
  rw [List.foldlM_append, h]
  rfl

lemma foldlM_significant : (significant events).foldlM step p = events.foldlM step p := by
  induction events generalizing p with
  | nil => rfl
  | cons event events ih =>
    by_cases he : event = .aside
    · subst he
      exact ih
    · rw [significant, List.filter_cons_of_pos (by simpa using he), List.foldlM_cons,
        List.foldlM_cons]
      exact congrArg _ (funext fun _ => ih)

lemma foldlM_indentation (h : Indentation events)
    (hp : ∀ raw, step p (.text raw) = skipText p raw) : events.foldlM step p = .ok p := by
  induction events with
  | nil => rfl
  | cons event events ih =>
    obtain ⟨⟨raw, rfl, hraw⟩, hevents⟩ := List.forall_mem_cons.mp h
    rw [List.foldlM_cons, hp, skipText, if_pos hraw]
    exact ih hevents

lemma foldlM_characters {cs : List Char} (h : Characters events cs) (draft : Draft) (field : Field)
    (text : List Char) : events.foldlM step ⟨.field draft field text, v, rs⟩ =
      .ok ⟨.field draft field (text ++ cs), v, rs⟩ := by
  induction h generalizing text with
  | nil =>
    rw [List.append_nil]
    rfl
  | @text raw cs more events hraw _ ih =>
    have hstep : step ⟨.field draft field text, v, rs⟩ (.text raw) =
        (unescaped raw).map fun more => ⟨.field draft field (text ++ more), v, rs⟩ := rfl
    rw [unescaped_eq_ok_iff.mpr hraw] at hstep
    rw [foldlM_cons_ok hstep, ← List.append_assoc]
    exact ih (text ++ cs)
  | @characterData raw more events _ ih =>
    rw [← List.append_assoc]
    exact ih (text ++ raw)

lemma Draft.store_eq {draft : Draft} {field : Field} (h : draft.get field = none) (text : String) :
    draft.store field text = .ok (draft.set text field) := by
  rw [Draft.store, h]
  rfl

lemma foldlM_fieldElement {draft : Draft} {field : Field} {text : String}
    (h : FieldElement field text events) (hd : draft.get field = none) :
    events.foldlM step ⟨.cell draft, v, rs⟩ = .ok ⟨.cell (draft.set text field), v, rs⟩ := by
  cases h with
  | empty attributes =>
    have hstep : step ⟨.cell draft, v, rs⟩ (.empty field.tag attributes) =
        (draft.store field "").map fun draft => ⟨.cell draft, v, rs⟩ := by
      cases field <;> rfl
    rw [Draft.store_eq hd] at hstep
    exact foldlM_cons_ok hstep
  | @tags attributes events cs h =>
    have hopening : step ⟨.cell draft, v, rs⟩ (.opening field.tag attributes) =
        .ok ⟨.field draft field [], v, rs⟩ := by
      cases field <;> rfl
    have hclosing : step ⟨.field draft field cs, v, rs⟩ (.closing field.tag) =
        (draft.store field (String.ofList cs)).map fun draft => ⟨.cell draft, v, rs⟩ := rfl
    rw [Draft.store_eq hd] at hclosing
    rw [List.cons_append, foldlM_cons_ok hopening, foldlM_append_ok (foldlM_characters h _ _ _)]
    exact foldlM_cons_ok hclosing

lemma foldlM_cellElement {record : Record} (h : CellElement record events) :
    events.foldlM step ⟨.sheet, v, rs⟩ = .ok ⟨.sheet, v, record :: rs⟩ := by
  obtain ⟨attributes, ⟨first, hi₁, he₁, hi₂, he₂, hi₃⟩⟩ := h
  have hopening : step ⟨.sheet, v, rs⟩ (.opening "cell" attributes) =
      .ok ⟨.cell .blank, v, rs⟩ := rfl
  have hsecond : (Draft.blank.set (record.get first) first).get first.other = none := by
    cases first <;> rfl
  have hboth : (Draft.blank.set (record.get first) first).set (record.get first.other)
      first.other = ⟨some record.name, some record.contents⟩ := by
    cases first <;> rfl
  have hfirst : Draft.blank.get first = none := by
    cases first <;> rfl
  simp only [List.cons_append, List.append_assoc]
  rw [foldlM_cons_ok hopening, foldlM_append_ok (foldlM_indentation hi₁ fun _ => rfl),
    foldlM_append_ok (foldlM_fieldElement he₁ hfirst),
    foldlM_append_ok (foldlM_indentation hi₂ fun _ => rfl),
    foldlM_append_ok (foldlM_fieldElement he₂ hsecond),
    foldlM_append_ok (foldlM_indentation hi₃ fun _ => rfl), hboth]
  rfl

lemma foldlM_cellElements {records : List Record} (h : CellElements records events) :
    events.foldlM step ⟨.sheet, v, rs⟩ = .ok ⟨.sheet, v, records.reverse ++ rs⟩ := by
  induction h generalizing rs with
  | nil => rfl
  | @indent raw records events hraw _ ih =>
    have hstep : step ⟨.sheet, v, rs⟩ (.text raw) = .ok ⟨.sheet, v, rs⟩ := if_pos hraw
    rw [foldlM_cons_ok hstep]
    exact ih
  | @cell record records element events hcell _ ih =>
    rw [foldlM_append_ok (foldlM_cellElement hcell), List.reverse_cons, List.append_assoc]
    exact ih

lemma foldlM_rootElement {document : Document} (h : RootElement document events) :
    events.foldlM step .start = .ok ⟨.done, document.version, document.records.reverse⟩ := by
  cases h with
  | @empty attributes version hv =>
    have hstep : step .start (.empty root attributes) =
        (versionOf attributes).map fun v => ⟨.done, v, []⟩ := rfl
    rw [versionOf_eq_ok_iff.mpr hv] at hstep
    exact foldlM_cons_ok hstep
  | @tags attributes version records body hv h =>
    have hstep : step .start (.opening root attributes) =
        (versionOf attributes).map fun v => ⟨.sheet, v, []⟩ := rfl
    rw [versionOf_eq_ok_iff.mpr hv] at hstep
    rw [List.cons_append, foldlM_cons_ok hstep, foldlM_append_ok (foldlM_cellElements h),
      List.append_nil]
    rfl

lemma foldlM_derives {document : Document} (h : Derives document events) :
    events.foldlM step .start = .ok ⟨.done, document.version, document.records.reverse⟩ := by
  obtain ⟨hbefore, helement, hafter⟩ := h
  rw [List.append_assoc, foldlM_append_ok (foldlM_indentation hbefore fun _ => rfl),
    foldlM_append_ok (foldlM_rootElement helement)]
  exact foldlM_indentation hafter fun _ => rfl

end Complete

section Sound

inductive Drafted : Draft → List Event → Prop where
  | blank {i : List Event} (hi : Indentation i) : Drafted .blank i
  | one {field : Field} {text : String} {i e j : List Event} (hi : Indentation i)
    (he : FieldElement field text e) (hj : Indentation j) :
    Drafted (Draft.blank.set text field) (i ++ e ++ j)
  | both {record : Record} {body : List Event} (h : CellBody record body) :
    Drafted ⟨some record.name, some record.contents⟩ body

inductive InSheet (version : String) (records : List Record) : List Event → Prop where
  | intro {before body : List Event} {attributes : List Char} (hbefore : Indentation before)
    (hv : VersionAttribute attributes version) (h : CellElements records.reverse body) :
    InSheet version records (before ++ .opening root attributes :: body)

inductive InCell (version : String) (records : List Record) (draft : Draft) :
    List Event → Prop where
  | intro {outer body : List Event} (attributes : List Char) (h : InSheet version records outer)
    (hd : Drafted draft body) :
    InCell version records draft (outer ++ .opening "cell" attributes :: body)

inductive InField (version : String) (records : List Record) (draft : Draft) (field : Field)
    (text : List Char) : List Event → Prop where
  | intro {outer events : List Event} (attributes : List Char)
    (h : InCell version records draft outer) (ht : Characters events text) :
    InField version records draft field text (outer ++ .opening field.tag attributes :: events)

def Describes (p : Progress) (events : List Event) : Prop :=
  match p.scope with
  | .outside => p.records = [] ∧ Indentation events
  | .sheet => InSheet p.version p.records events
  | .cell draft => InCell p.version p.records draft events
  | .field draft field text => InField p.version p.records draft field text events
  | .done => Derives ⟨p.version, p.records.reverse⟩ events

def opened : Scope → List String
  | .outside | .done => []
  | .sheet => [root]
  | .cell _ => ["cell", root]
  | .field _ field _ => [field.tag, "cell", root]

variable {v : String} {rs : List Record} {draft draft' : Draft} {before events : List Event}
  {p p' : Progress} {event : Event} {names : List String}

lemma skipText_eq_ok_iff {raw : List Char} :
    skipText p raw = .ok p' ↔ raw.all isIndent = true ∧ p' = p := by
  rw [skipText]
  split
  · rename_i hraw
    exact ⟨fun h => ⟨hraw, (Except.ok.inj h).symm⟩, fun h => congrArg _ h.2.symm⟩
  · rename_i hraw
    simp [hraw]

lemma Drafted.text {raw : List Char} (h : Drafted draft events) (hraw : raw.all isIndent = true) :
    Drafted draft (events ++ [.text raw]) := by
  have hindent := Indentation.text hraw
  cases h with
  | blank hi => exact .blank (hi.append hindent)
  | one hi he hj =>
    rw [List.append_assoc]
    exact .one hi he (hj.append hindent)
  | both h =>
    obtain ⟨first, hi₁, he₁, hi₂, he₂, hi₃⟩ := h
    rw [List.append_assoc]
    exact .both (.intro first hi₁ he₁ hi₂ he₂ (hi₃.append hindent))

lemma Drafted.store {field : Field} {text : String} {element : List Event}
    (h : Drafted draft events) (he : FieldElement field text element)
    (hs : draft.store field text = .ok draft') : Drafted draft' (events ++ element) := by
  rw [Draft.store] at hs
  split at hs
  · cases hs
  rename_i hnone
  obtain rfl := Except.ok.inj hs
  cases h with
  | blank hi =>
    have hone := Drafted.one hi he .nil
    rwa [List.append_nil] at hone
  | @one first other i e j hi hfirst hj =>
    obtain rfl | rfl := first.eq_or_eq_other field
    · cases field <;> exact (hnone rfl).elim
    have hboth (record : Record) (h₁ : record.get first = other)
        (h₂ : record.get first.other = text) :
        CellBody record (i ++ e ++ j ++ element ++ []) :=
      .intro first hi (h₁ ▸ hfirst) hj (h₂ ▸ he) .nil
    rw [← List.append_nil (i ++ e ++ j ++ element)]
    cases first with
    | name => exact .both (hboth ⟨other, text⟩ rfl rfl)
    | contents => exact .both (hboth ⟨text, other⟩ rfl rfl)
  | both _ => cases field <;> exact (hnone rfl).elim

lemma Drafted.finish {record : Record} (h : Drafted draft events)
    (hf : draft.finish = .ok record) (attributes : List Char) :
    CellElement record (.opening "cell" attributes :: events ++ [.closing "cell"]) := by
  cases h with
  | blank _ => cases hf
  | @one field => cases field <;> cases hf
  | both h =>
    obtain rfl := Except.ok.inj hf
    exact .tags attributes h

lemma describes_stepOutside (h : Indentation before)
    (hs : stepOutside ⟨.outside, v, []⟩ event = .ok p') (hn : nest [] event = .ok names) :
    Describes p' (before ++ [event]) ∧ opened p'.scope = names := by
  cases event with
  | text raw =>
    obtain ⟨hraw, rfl⟩ := skipText_eq_ok_iff.mp hs
    exact ⟨⟨rfl, h.append (.text hraw)⟩, Except.ok.inj hn⟩
  | opening tag attributes =>
    rw [stepOutside] at hs
    split at hs
    · rename_i htag
      obtain ⟨version, hv, rfl⟩ := Except.map_eq_ok_iff.mp hs
      subst htag
      exact ⟨.intro h (versionOf_eq_ok_iff.mp hv) .nil, Except.ok.inj hn⟩
    · cases hs
  | empty tag attributes =>
    rw [stepOutside] at hs
    split at hs
    · rename_i htag
      obtain ⟨version, hv, rfl⟩ := Except.map_eq_ok_iff.mp hs
      subst htag
      have hderives := Derives.intro h (.empty (versionOf_eq_ok_iff.mp hv)) .nil
      rw [List.append_nil] at hderives
      exact ⟨hderives, Except.ok.inj hn⟩
    · cases hs
  | closing _ | characterData _ | aside => cases hs

lemma stepSheet_opening (p : Progress) (tag : String) (attributes : List Char) :
    stepSheet p (.opening tag attributes) =
      if tag = "cell" then .ok (p.enter (.cell .blank)) else .error (.strayElement tag) := by
  split
  · rename_i htag
    subst htag
    rfl
  · rename_i htag
    simp [stepSheet, stray, htag]

lemma nest_closing_eq_ok_iff {name expected : String} {outer : List String} :
    nest (expected :: outer) (.closing name) = .ok names ↔ name = expected ∧ outer = names := by
  simp only [nest]
  split <;> simp [*]

lemma InSheet.append (h : InSheet v rs before) {records : List Record}
    (hc : CellElements records events) : InSheet v (records.reverse ++ rs) (before ++ events) := by
  obtain ⟨hbefore, hv, hcells⟩ := h
  have hmore := hcells.append hc
  rw [List.append_assoc]
  refine .intro hbefore hv ?_
  rwa [List.reverse_append, List.reverse_reverse]

lemma describes_stepSheet (h : InSheet v rs before)
    (hs : stepSheet ⟨.sheet, v, rs⟩ event = .ok p') (hn : nest [root] event = .ok names) :
    Describes p' (before ++ [event]) ∧ opened p'.scope = names := by
  cases event with
  | text raw =>
    obtain ⟨hraw, rfl⟩ := skipText_eq_ok_iff.mp hs
    exact ⟨h.append (.indent hraw .nil), Except.ok.inj hn⟩
  | opening tag attributes =>
    rw [stepSheet_opening] at hs
    split at hs
    · rename_i htag
      subst htag
      obtain rfl := Except.ok.inj hs
      exact ⟨.intro attributes h (.blank .nil), Except.ok.inj hn⟩
    · cases hs
  | closing name =>
    obtain rfl := Except.ok.inj hs
    obtain ⟨rfl, hnames⟩ := nest_closing_eq_ok_iff.mp hn
    obtain ⟨hbefore, hv, hcells⟩ := h
    have hderives := Derives.intro hbefore (.tags hv hcells) .nil
    rw [List.append_nil] at hderives
    rw [List.append_assoc]
    exact ⟨hderives, hnames⟩
  | empty _ _ | characterData _ | aside => cases hs

lemma InCell.append (h : InCell v rs draft before) (hd : ∀ {body : List Event},
    Drafted draft body → Drafted draft' (body ++ events)) :
    InCell v rs draft' (before ++ events) := by
  obtain ⟨attributes, hsheet, hbody⟩ := h
  rw [List.append_assoc]
  exact .intro attributes hsheet (hd hbody)

lemma Field.ofTag?_eq_some_iff {tag : String} {field : Field} :
    Field.ofTag? tag = some field ↔ tag = field.tag := by
  rw [Field.ofTag?]
  split_ifs with hname hcontents
  · subst hname
    cases field <;> simp [Field.tag]
  · subst hcontents
    cases field <;> simp [Field.tag]
  · cases field <;> simp [hname, hcontents]

lemma describes_stepCell (h : InCell v rs draft before)
    (hs : stepCell ⟨.cell draft, v, rs⟩ draft event = .ok p')
    (hn : nest ["cell", root] event = .ok names) :
    Describes p' (before ++ [event]) ∧ opened p'.scope = names := by
  cases event with
  | text raw =>
    obtain ⟨hraw, rfl⟩ := skipText_eq_ok_iff.mp hs
    exact ⟨h.append fun hd => hd.text hraw, Except.ok.inj hn⟩
  | opening tag attributes =>
    rw [stepCell] at hs
    split at hs
    · rename_i field hfield
      obtain rfl := Field.ofTag?_eq_some_iff.mp hfield
      obtain rfl := Except.ok.inj hs
      exact ⟨.intro attributes h .nil, Except.ok.inj hn⟩
    · cases hs
  | empty tag attributes =>
    rw [stepCell] at hs
    split at hs
    · rename_i field hfield
      obtain rfl := Field.ofTag?_eq_some_iff.mp hfield
      obtain ⟨draft', hstore, rfl⟩ := Except.map_eq_ok_iff.mp hs
      exact ⟨h.append fun hd => hd.store (.empty attributes) hstore, Except.ok.inj hn⟩
    · cases hs
  | closing name =>
    obtain ⟨record, hfinish, rfl⟩ := Except.map_eq_ok_iff.mp hs
    obtain ⟨rfl, hnames⟩ := nest_closing_eq_ok_iff.mp hn
    obtain ⟨attributes, hsheet, hbody⟩ := h
    have hcell := hsheet.append (.cell (hbody.finish hfinish attributes) .nil)
    rw [List.append_nil] at hcell
    rw [List.append_assoc]
    exact ⟨hcell, hnames⟩
  | characterData _ | aside => cases hs

lemma InField.append {field : Field} {text more : List Char}
    (h : InField v rs draft field text before) (hm : Characters events more) :
    InField v rs draft field (text ++ more) (before ++ events) := by
  obtain ⟨attributes, hcell, ht⟩ := h
  rw [List.append_assoc]
  exact .intro attributes hcell (ht.append hm)

lemma describes_stepField {field : Field} {text : List Char}
    (h : InField v rs draft field text before)
    (hs : stepField ⟨.field draft field text, v, rs⟩ draft field text event = .ok p')
    (hn : nest [field.tag, "cell", root] event = .ok names) :
    Describes p' (before ++ [event]) ∧ opened p'.scope = names := by
  cases event with
  | text raw =>
    obtain ⟨more, hraw, rfl⟩ := Except.map_eq_ok_iff.mp hs
    have hmore := Characters.text (unescaped_eq_ok_iff.mp hraw) .nil
    rw [List.append_nil] at hmore
    exact ⟨h.append hmore, Except.ok.inj hn⟩
  | characterData raw =>
    obtain rfl := Except.ok.inj hs
    have hmore : Characters [.characterData raw] (raw ++ []) := .characterData .nil
    rw [List.append_nil] at hmore
    exact ⟨h.append hmore, Except.ok.inj hn⟩
  | closing name =>
    obtain ⟨draft', hstore, rfl⟩ := Except.map_eq_ok_iff.mp hs
    obtain ⟨rfl, hnames⟩ := nest_closing_eq_ok_iff.mp hn
    obtain ⟨attributes, hcell, ht⟩ := h
    rw [List.append_assoc]
    exact ⟨hcell.append fun hd => hd.store (.tags attributes ht) hstore, hnames⟩
  | opening _ _ | empty _ _ | aside => cases hs

lemma describes_stepDone (h : Derives ⟨v, rs.reverse⟩ before)
    (hs : stepDone ⟨.done, v, rs⟩ event = .ok p') (hn : nest [] event = .ok names) :
    Describes p' (before ++ [event]) ∧ opened p'.scope = names := by
  cases event with
  | text raw =>
    obtain ⟨hraw, rfl⟩ := skipText_eq_ok_iff.mp hs
    obtain ⟨hbefore, helement, hafter⟩ := h
    rw [List.append_assoc]
    exact ⟨.intro hbefore helement (hafter.append (.text hraw)), Except.ok.inj hn⟩
  | opening _ _ | empty _ _ | closing _ | characterData _ | aside => cases hs

lemma describes_step (h : Describes p before) (he : event ≠ .aside)
    (hs : step p event = .ok p') (hn : nest (opened p.scope) event = .ok names) :
    Describes p' (before ++ [event]) ∧ opened p'.scope = names := by
  rw [step, if_neg he] at hs
  obtain ⟨scope, v, rs⟩ := p
  cases scope with
  | outside =>
    obtain ⟨rfl, h⟩ := h
    exact describes_stepOutside h hs hn
  | sheet => exact describes_stepSheet h hs hn
  | cell draft => exact describes_stepCell h hs hn
  | field draft field text => exact describes_stepField h hs hn
  | done => exact describes_stepDone h hs hn

lemma describes_steps (h : Describes p before) (hs : events.foldlM step p = .ok p')
    (hn : events.foldlM nest (opened p.scope) = .ok names) :
    Describes p' (before ++ significant events) := by
  induction events generalizing p before with
  | nil =>
    obtain rfl := Except.ok.inj hs
    rwa [significant, List.filter_nil, List.append_nil]
  | cons event events ih =>
    obtain ⟨q, hstep, hs⟩ := List.foldlM_cons_eq_ok_iff.mp hs
    obtain ⟨inner, hnest, hn⟩ := List.foldlM_cons_eq_ok_iff.mp hn
    by_cases he : event = .aside
    · subst he
      obtain rfl := Except.ok.inj hstep
      obtain rfl := Except.ok.inj hnest
      exact ih h hs hn
    · obtain ⟨hq, rfl⟩ := describes_step h he hstep hnest
      have hrest := ih hq hs hn
      rw [List.append_assoc] at hrest
      rw [significant, List.filter_cons_of_pos (by simpa using he)]
      exact hrest

end Sound

lemma finish_eq_ok_iff {p : Progress} {document : Document} :
    finish p = .ok document ↔ p.scope = .done ∧ document = ⟨p.version, p.records.reverse⟩ := by
  rw [finish]
  split
  · rename_i hdone
    exact ⟨fun h => ⟨hdone, (Except.ok.inj h).symm⟩, fun h => congrArg _ h.2.symm⟩
  · rename_i hdone
    simp [hdone]

lemma read_eq_ok_iff {cs : List Char} {document : Document} :
    read cs = .ok document ↔ ∃ p, (events cs).1.foldlM step .start = .ok p ∧
      (events cs).2 = none ∧ finish p = .ok document := by
  simp only [read]
  cases (events cs).1.foldlM step .start with
  | error e => simp
  | ok p => cases (events cs).2 <;> simp

theorem parse_iff_derives (text : String) (document : Document) :
    parse text = .ok document ↔ ∃ read, events text.toList = (read, none) ∧
      Derives document (significant read) := by
  rw [parse, read_eq_ok_iff]
  constructor
  · rintro ⟨p, hsteps, hstop, hfinish⟩
    obtain ⟨names, hnest⟩ := foldlM_nest_of_readAll hstop
    obtain ⟨hdone, rfl⟩ := finish_eq_ok_iff.mp hfinish
    have hstart : Describes .start [] := ⟨rfl, .nil⟩
    have hread := describes_steps hstart hsteps hnest
    rw [Describes, hdone] at hread
    exact ⟨_, Prod.ext rfl hstop, hread⟩
  · rintro ⟨read, hread, hderives⟩
    rw [hread]
    refine ⟨⟨.done, document.version, document.records.reverse⟩, ?_, rfl,
      finish_eq_ok_iff.mpr ⟨rfl, ?_⟩⟩
    · rw [← foldlM_significant, foldlM_derives hderives]
    · rw [List.reverse_reverse]

end Document

end Spreadsheet
