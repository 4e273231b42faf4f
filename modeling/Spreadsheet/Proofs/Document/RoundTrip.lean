import Mathlib
import Spreadsheet.Document.Printer
import Spreadsheet.Document.Reader
import Spreadsheet.Proofs.Markup.Attribute
import Spreadsheet.Proofs.Markup.Escape
import Spreadsheet.Proofs.Markup.Quoted

/-! The markup of a document is read as that document, event by event. White space belongs to the
tag that it comes before, so that what is written for a record is read between two line ends. -/

namespace Spreadsheet.Document

open Markup Relation

structure Position where
  opened : List String
  progress : Progress
  rest : List Char

def Position.Next (a b : Position) : Prop :=
  ∃ c cs event, a.rest = c :: cs ∧ readEvent c cs = .ok (event, b.rest) ∧
    nest a.opened event = .ok b.opened ∧ step a.progress event = .ok b.progress

lemma readAll_cons {opened opened' : List String} {c : Char} {cs rest : List Char} {event : Event}
    (hread : readEvent c cs = .ok (event, rest)) (hnest : nest opened event = .ok opened') :
    readAll opened (c :: cs) = (event :: (readAll opened' rest).1, (readAll opened' rest).2) := by
  rw [readAll]
  split
  · rename_i e he
    cases hread.symm.trans he
  · rename_i event' rest' he
    obtain ⟨rfl, rfl⟩ := Prod.mk.inj (Except.ok.inj (hread.symm.trans he))
    rw [hnest]

lemma readAll_of_next {a b : Position} (h : ReflTransGen Position.Next a b) (hb : b.rest = []) :
    (readAll a.opened a.rest).1.foldlM step a.progress = .ok b.progress ∧
      (readAll a.opened a.rest).2 = none := by
  induction h using ReflTransGen.head_induction_on with
  | refl =>
    rw [hb, readAll]
    exact ⟨rfl, rfl⟩
  | @head a m ham _ ih =>
    obtain ⟨c, cs, event, hrest, hread, hnest, hstep⟩ := ham
    rw [hrest, readAll_cons hread hnest, List.foldlM_cons, hstep]
    exact ih

lemma read_of_next {cs : List Char} {b : Position}
    (h : ReflTransGen Position.Next ⟨[], .start, withoutMark cs⟩ b) (hb : b.rest = []) :
    read cs = finish b.progress := by
  obtain ⟨hfold, hstop⟩ := readAll_of_next h hb
  simp only [read, events]
  rw [hfold, hstop]

section Events

variable {opened : List String} {p p' : Progress} {rest : List Char}

lemma next_text (raw : List Char) (hne : raw ≠ []) (hraw : '<' ∉ raw)
    (hs : step p (.text raw) = .ok p') :
    Position.Next ⟨opened, p, raw ++ '<' :: rest⟩ ⟨opened, p', '<' :: rest⟩ := by
  obtain ⟨c, cs, rfl⟩ := List.exists_cons_of_ne_nil hne
  refine ⟨c, cs ++ '<' :: rest, .text (c :: cs), rfl, ?_, rfl, hs⟩
  have htaken : ∀ d ∈ c :: cs, decide (d ≠ '<') = true :=
    fun d hd => decide_eq_true (ne_of_mem_of_not_mem hd hraw)
  have hc : c ≠ '<' := ne_of_mem_of_not_mem List.mem_cons_self hraw
  have hstop : Text.Stops (· ≠ '<') ('<' :: rest) := Text.stops_cons.mpr rfl
  rw [readEvent.eq_def, if_neg hc, ← List.cons_append, Text.takeWhile_append htaken hstop,
    Text.dropWhile_append (fun d hd => htaken d (List.mem_cons_of_mem c hd)) hstop]

end Events

section Fields

variable (v : String) (rs : List Record)

lemma unescaped_escape (cs : List Char) : unescaped (escape cs) = .ok cs := by
  rw [unescaped, unescape_escape]
  rfl

lemma reads_escaped (opened : List String) (draft : Draft) (field : Field)
    (text rest : List Char) : ReflTransGen Position.Next
      ⟨opened, ⟨.field draft field [], v, rs⟩, escape text ++ '<' :: rest⟩
      ⟨opened, ⟨.field draft field text, v, rs⟩, '<' :: rest⟩ := by
  cases text with
  | nil => exact .refl
  | cons c cs =>
    have hne : escape (c :: cs) ≠ [] := by
      intro hnil
      have h := unescape_escape (c :: cs)
      rw [hnil] at h
      cases h
    have hstep : step ⟨.field draft field [], v, rs⟩ (.text (escape (c :: cs))) =
        (unescaped (escape (c :: cs))).map fun more => ⟨.field draft field ([] ++ more), v, rs⟩ :=
      rfl
    rw [unescaped_escape] at hstep
    exact .single (next_text _ hne (fun hmem => (ne_of_mem_escape hmem).1 rfl) hstep)

lemma reads_field {draft : Draft} {field : Field} (hd : draft.get field = none) (text : String)
    (opened : List String) (rest : List Char) : ReflTransGen Position.Next
      ⟨opened, ⟨.cell draft, v, rs⟩, '\n' :: (renderField field text ++ rest)⟩
      ⟨opened, ⟨.cell (draft.set text field), v, rs⟩, '\n' :: rest⟩ := by
  have htext : '\n' :: (renderField field text ++ rest) = "\n    ".toList ++ '<' ::
      (field.tag.toList ++ '>' :: (escape text.toList ++ '<' ::
        ('/' :: field.tag.toList ++ '>' :: '\n' :: rest))) := by
    unfold renderField
    simp only [String.reduceToList, List.append_assoc, List.cons_append, List.nil_append]
  have hindent : Position.Next
      ⟨opened, ⟨.cell draft, v, rs⟩, '\n' :: (renderField field text ++ rest)⟩
      ⟨opened, ⟨.cell draft, v, rs⟩, '<' :: (field.tag.toList ++ '>' ::
        (escape text.toList ++ '<' :: ('/' :: field.tag.toList ++ '>' :: '\n' :: rest)))⟩ := by
    rw [htext]
    exact next_text _ (by decide) (by decide) rfl
  have hopening : Position.Next
      ⟨opened, ⟨.cell draft, v, rs⟩, '<' :: (field.tag.toList ++ '>' ::
        (escape text.toList ++ '<' :: ('/' :: field.tag.toList ++ '>' :: '\n' :: rest)))⟩
      ⟨field.tag :: opened, ⟨.field draft field [], v, rs⟩,
        escape text.toList ++ '<' :: ('/' :: field.tag.toList ++ '>' :: '\n' :: rest)⟩ := by
    cases field <;> exact ⟨_, _, .opening _ [], rfl, rfl, rfl, rfl⟩
  have hclosing : Position.Next
      ⟨field.tag :: opened, ⟨.field draft field text.toList, v, rs⟩,
        '<' :: ('/' :: field.tag.toList ++ '>' :: '\n' :: rest)⟩
      ⟨opened, ⟨.cell (draft.set text field), v, rs⟩, '\n' :: rest⟩ := by
    have hstep : step ⟨.field draft field text.toList, v, rs⟩ (.closing field.tag) =
        (draft.store field (String.ofList text.toList)).map fun draft => ⟨.cell draft, v, rs⟩ := rfl
    have hstore : draft.store field text = .ok (draft.set text field) := by
      rw [Draft.store, hd]
      rfl
    rw [String.ofList_toList, hstore] at hstep
    refine ⟨_, _, .closing field.tag, rfl, ?_, ?_, hstep⟩
    · cases field <;> rfl
    · cases field <;> rfl
  exact ReflTransGen.head hindent (.head hopening
    ((reads_escaped v rs _ draft field text.toList _).tail hclosing))

lemma reads_record (record : Record) (rest : List Char) : ReflTransGen Position.Next
    ⟨[root], ⟨.sheet, v, rs⟩, '\n' :: (renderRecord record ++ rest)⟩
    ⟨[root], ⟨.sheet, v, record :: rs⟩, '\n' :: rest⟩ := by
  let fields (rest : List Char) := '\n' :: (renderField .name record.name ++
    (renderField .contents record.contents ++ rest))
  have htext : '\n' :: (renderRecord record ++ rest) = "\n  ".toList ++ '<' ::
      ("cell>".toList ++ fields ("  ".toList ++ '<' :: ("/cell>".toList ++ '\n' :: rest))) := by
    unfold renderRecord
    simp only [fields, String.reduceToList, List.append_assoc, List.cons_append, List.nil_append]
  rw [htext]
  refine .head (next_text _ (by decide) (by decide) rfl) ?_
  refine .head (b := ⟨["cell", root], ⟨.cell .blank, v, rs⟩,
    fields ("  ".toList ++ '<' :: ("/cell>".toList ++ '\n' :: rest))⟩)
    ⟨_, _, .opening "cell" [], rfl, rfl, rfl, rfl⟩ ?_
  apply (reads_field v rs rfl record.name _ _).trans
  apply (reads_field v rs rfl record.contents _ _).trans
  refine .head (next_text "\n  ".toList (by decide) (by decide) rfl) ?_
  exact .single ⟨_, _, .closing "cell", rfl, rfl, rfl, rfl⟩

lemma reads_records (records : List Record) (rest : List Char) : ReflTransGen Position.Next
    ⟨[root], ⟨.sheet, v, rs⟩, '\n' :: (records.flatMap renderRecord ++ rest)⟩
    ⟨[root], ⟨.sheet, v, records.reverse ++ rs⟩, '\n' :: rest⟩ := by
  induction records generalizing rs with
  | nil => exact .refl
  | cons record records ih =>
    rw [List.flatMap_cons, List.append_assoc, List.reverse_cons, List.append_assoc]
    exact (reads_record v rs record _).trans (ih (record :: rs))

end Fields

section Root

lemma readEvent_header (rest : List Char) :
    readEvent '<' ("?xml version=\"1.0\" encoding=\"UTF-8\"?>".toList ++ rest) =
      .ok (.aside, rest) := rfl

variable (v : String)

lemma versionOf_escape :
    versionOf (" version=\"".toList ++ escape v.toList ++ ['"']) = .ok v := by
  have hfound : findAttribute "version".toList (" version=\"".toList ++ escape v.toList ++ ['"']) =
      .ok (some ⟨"version".toList, escape v.toList⟩) := by
    have htext : AttributeText ⟨"version".toList, escape v.toList⟩
        ([' '] ++ 'v' :: "ersion".toList ++ [] ++ '=' :: [] ++ '"' :: escape v.toList ++ ['"']) :=
      .intro rfl rfl rfl rfl rfl rfl fun hmem => (ne_of_mem_escape hmem).2.2 rfl
    have hfirst : FirstAttribute "version".toList (escape v.toList)
        (" version=\"".toList ++ escape v.toList ++ ['"'] ++ []) := .here htext
    rw [List.append_nil] at hfirst
    exact findAttribute_eq_some_iff.mpr ⟨rfl, hfirst⟩
  rw [versionOf, hfound]
  simp only [unescaped_escape]
  exact congrArg Except.ok String.ofList_toList

lemma readEvent_root (rest : List Char) :
    readEvent '<' ("spreadsheet version=\"".toList ++ escape v.toList ++ '"' :: '>' :: rest) =
      .ok (.opening root (" version=\"".toList ++ escape v.toList ++ ['"']), rest) := by
  have hsplit : splitTag none
      ("spreadsheet version=\"".toList ++ escape v.toList ++ '"' :: '>' :: rest) =
      some ("spreadsheet version=\"".toList ++ escape v.toList ++ ['"'], rest) := by
    have hmark : "spreadsheet version=\"".toList = "spreadsheet version=".toList ++ ['"'] := rfl
    have hquoted : splitTag none
        ("spreadsheet version=".toList ++ '"' :: escape v.toList ++ '"' :: '>' :: rest) =
        some ("spreadsheet version=".toList ++ '"' :: escape v.toList ++ ['"'], rest) :=
      splitTag_attribute _ rfl (fun hmem => (ne_of_mem_escape hmem).2.2 rfl) rfl
    simpa only [hmark, List.append_assoc, List.cons_append, List.nil_append] using hquoted
  -- a slash before the end of the tag would close the element
  have hlast :
      ("spreadsheet version=\"".toList ++ escape v.toList ++ ['"']).getLast? ≠ some '/' := by
    rw [List.getLast?_concat]
    decide
  have htag :
      readEvent '<' ("spreadsheet version=\"".toList ++ escape v.toList ++ '"' :: '>' :: rest) =
        closedBy (splitTag none
          ("spreadsheet version=\"".toList ++ escape v.toList ++ '"' :: '>' :: rest)) openingTag :=
    rfl
  rw [htag, hsplit, closedBy, openingTag, if_neg hlast]
  rfl

end Root

theorem read_render (document : Document) : read document.render = .ok document := by
  let body := '\n' :: (document.records.flatMap renderRecord ++ '<' :: "/spreadsheet>".toList)
  let tag := "spreadsheet version=\"".toList ++ escape document.version.toList ++ '"' :: '>' :: body
  have htext : document.render =
      '<' :: ("?xml version=\"1.0\" encoding=\"UTF-8\"?>".toList ++ (['\n'] ++ '<' :: tag)) := by
    unfold render header
    simp only [tag, body, String.reduceToList, List.append_assoc, List.cons_append,
      List.nil_append]
  have hread : ReflTransGen Position.Next ⟨[], .start, document.render⟩
      ⟨[], ⟨.done, document.version, document.records.reverse⟩, []⟩ := by
    rw [htext]
    refine .head (b := ⟨[], .start, ['\n'] ++ '<' :: tag⟩)
      ⟨_, _, .aside, rfl, readEvent_header _, rfl, rfl⟩ ?_
    refine .head (next_text ['\n'] (by decide) (by decide) rfl) ?_
    refine .head (b := ⟨[root], ⟨.sheet, document.version, []⟩, body⟩)
      ⟨_, _, _, rfl, readEvent_root _ _, rfl, ?_⟩ ?_
    · have hstep (attributes : List Char) : step .start (.opening root attributes) =
          (versionOf attributes).map fun v => ⟨.sheet, v, []⟩ := rfl
      rw [hstep, versionOf_escape]
      rfl
    apply (reads_records _ _ document.records _).trans
    rw [List.append_nil]
    refine .head (next_text ['\n'] (by decide) (by decide) rfl) ?_
    exact .single ⟨_, _, .closing root, rfl, rfl, rfl, rfl⟩
  have hmark : withoutMark document.render = document.render := by
    rw [htext]
    rfl
  rw [read_of_next (hmark.symm ▸ hread) rfl]
  simp only [finish, if_true, List.reverse_reverse]

theorem parse_text (version : String) (records : List Record) :
    parse (text ⟨version, records⟩) = .ok ⟨version, records⟩ := by
  rw [parse, text, String.toList_ofList, read_render]

end Spreadsheet.Document
