import Mathlib
import Spreadsheet.CommandLine.Item
import Spreadsheet.Proofs.Text.Span

namespace Spreadsheet

lemma Text.isBlankText_of_trim_eq_nil {s : String} (h : trim s.toList = []) :
    isBlankText s = true := by
  rw [trim, trimEnd, List.reverse_eq_nil_iff, List.dropWhile_eq_nil_iff] at h
  rw [isBlankText, List.all_eq_true]
  apply List.dropWhile_eq_nil_iff.mp
  have hstops := stops_dropWhile isBlank s.toList
  cases hs : s.toList.dropWhile isBlank with
  | nil => rfl
  | cons c cs =>
    rw [hs] at hstops
    rw [trimStart, hs] at h
    cases (stops_cons.mp hstops).symm.trans (h c (by simp))

namespace Arguments

variable {a : Arguments} {name arg : String}

lemma splitAssignment_assignment (hname : '=' ∉ name.toList)
    (hblank : Text.isBlankText name = false) (content : String) :
    splitAssignment (Item.assignment name content) = .ok (Text.trimmed name, content) := by
  have hall : ∀ c ∈ name.toList, decide (c ≠ '=') = true := by
    intro c hc
    exact decide_eq_true (ne_of_mem_of_not_mem hc hname)
  have hlist : (Item.assignment name content).toList = name.toList ++ '=' :: content.toList := by
    simp [Item.assignment]
  have hstops : Text.Stops (· ≠ '=') ('=' :: content.toList) := Text.stops_cons.mpr rfl
  have hne : (Text.trim name.toList).isEmpty = false := by
    rw [Bool.eq_false_iff, ne_eq, List.isEmpty_iff]
    intro h
    rw [Text.isBlankText_of_trim_eq_nil h] at hblank
    cases hblank
  simp only [splitAssignment, hlist, Text.takeWhile_append hall hstops,
    Text.dropWhile_append hall hstops, hne]
  rw [if_neg Bool.false_ne_true, String.ofList_toList, Text.trimmed]

lemma ofText?_of_head (h : arg.toList.head? ≠ some '-') :
    Switch.ofText? arg = .none ∧ Flag.ofText? arg = .none := by
  have hne {s : String} (hs : s.toList.head? = some '-') : arg ≠ s := by
    rintro rfl
    exact h hs
  constructor
  · rw [Switch.ofText?, if_neg, if_neg, if_neg]
    · exact not_or_intro (hne rfl) (hne rfl)
    · exact hne rfl
    · exact not_or_intro (hne rfl) (hne rfl)
  · rw [Flag.ofText?, if_neg, if_neg, if_neg, if_neg, if_neg]
    · exact hne rfl
    · exact hne rfl
    · exact not_or_intro (hne rfl) (hne rfl)
    · exact hne rfl
    · exact not_or_intro (hne rfl) (hne rfl)

section Items

variable {item : Item} {items : List Item}

lemma getLast?_foldl_add {f : Arguments → Option String} {given : Item → Option String}
    (h : ∀ item a, f (item.add a) = (given item).or (f a)) (items : List Item) (a : Arguments) :
    f (items.foldl Item.add a) = (items.filterMap given).getLast?.or (f a) := by
  induction items generalizing a with
  | nil => rfl
  | cons item items ih =>
    rw [List.foldl_cons, ih, h]
    cases hgiven : given item with
    | none => rw [List.filterMap_cons_none hgiven, Option.none_or]
    | some value =>
      rw [List.filterMap_cons_some hgiven, List.getLast?_cons, Option.some_or, Option.some_or]
      cases (items.filterMap given).getLast? <;> rfl

lemma any_foldl_add {f : Arguments → Bool} {given : Item → Bool}
    (h : ∀ item a, f (item.add a) = (given item || f a)) (items : List Item) (a : Arguments) :
    f (items.foldl Item.add a) = (items.any given || f a) := by
  induction items generalizing a with
  | nil => rfl
  | cons item items ih =>
    rw [List.foldl_cons, ih, h, List.any_cons, Bool.or_left_comm, Bool.or_assoc]

lemma edits_foldl_add (items : List Item) (a : Arguments) :
    (items.foldl Item.add a).edits = a.edits ++ items.filterMap Item.edit? := by
  induction items generalizing a with
  | nil => exact (List.append_nil a.edits).symm
  | cons item items ih =>
    rw [List.foldl_cons, ih]
    cases item with
    | set long name content => exact List.append_assoc _ _ _
    | check name content => exact List.append_assoc _ _ _
    | _ => rfl

lemma file_add (item : Item) (a : Arguments) : (item.add a).file = item.file?.or a.file := by
  cases item <;> rfl

lemma ofItems_eq (items : List Item) : ofItems items =
    { help := false
      file := (items.filterMap Item.file?).getLast?
      edits := items.filterMap Item.edit?
      output := (items.filterMap Item.output?).getLast?
      versionTag := (items.filterMap Item.versionTag?).getLast?
      configFile := (items.filterMap Item.config?).getLast?
      noConfig := items.any Item.isNoConfig
      verbose := items.any Item.isVerbose } := by
  have hlast {f : Arguments → Option String} {given : Item → Option String}
      (h : ∀ item a, f (item.add a) = (given item).or (f a)) (hnone : f none = .none) :
      f (ofItems items) = (items.filterMap given).getLast? := by
    rw [ofItems, getLast?_foldl_add h, hnone, Option.or_none]
  have hany {f : Arguments → Bool} {given : Item → Bool}
      (h : ∀ item a, f (item.add a) = (given item || f a)) (hnone : f none = false) :
      f (ofItems items) = items.any given := by
    rw [ofItems, any_foldl_add h, hnone, Bool.or_false]
  have hhelp : (ofItems items).help = items.any fun _ => false :=
    hany (fun item a => by cases item <;> rfl) rfl
  rw [Arguments.mk.injEq]
  refine ⟨hhelp.trans ?_, hlast file_add rfl, edits_foldl_add items none, hlast ?_ rfl,
    hlast ?_ rfl, hlast ?_ rfl, hany ?_ rfl, hany ?_ rfl⟩
  · exact List.any_eq_false.mpr fun _ _ => Bool.false_ne_true
  all_goals
    intro item a
    cases item <;> rfl

lemma help_ofItems (items : List Item) : (ofItems items).help = false := by
  rw [ofItems_eq]

lemma parseFrom_render (h : item.Valid) (hfile : item.file?.isSome → a.file = .none)
    (args : List String) : parseFrom a (item.render ++ args) = parseFrom (item.add a) args := by
  cases item with
  | set long name content =>
    have hsplit := splitAssignment_assignment h.1 h.2 content
    cases long <;>
      simp [Item.render, parseFrom, Switch.ofText?, Flag.ofText?, take, hsplit, Item.add,
        Except.map]
  | check name content =>
    have hsplit := splitAssignment_assignment h.1 h.2 content
    simp [Item.render, parseFrom, Switch.ofText?, Flag.ofText?, take, hsplit, Item.add, Except.map]
  | output long path => cases long <;> rfl
  | versionTag tag => rfl
  | config path => rfl
  | noConfig => rfl
  | verbose long => cases long <;> rfl
  | file path =>
    obtain ⟨hswitch, hflag⟩ := ofText?_of_head h
    have hhead : path.toList.head? ≠ some '-' := h
    simp [Item.render, parseFrom, hswitch, hflag, takeFile, hhead, hfile rfl, Item.add]

lemma parseFrom_items (hv : ∀ item ∈ items, item.Valid)
    (hf : (a.file.toList ++ items.filterMap Item.file?).length ≤ 1) (args : List String) :
    parseFrom a (items.flatMap Item.render ++ args) = parseFrom (items.foldl Item.add a) args := by
  induction items generalizing a with
  | nil => rfl
  | cons item items ih =>
    obtain ⟨hitem, hv⟩ := List.forall_mem_cons.mp hv
    have hstep : (item.file?.isSome → a.file = .none) ∧
        ((item.add a).file.toList ++ items.filterMap Item.file?).length ≤ 1 := by
      rw [file_add]
      cases hpath : item.file? with
      | none =>
        rw [List.filterMap_cons_none hpath] at hf
        exact ⟨fun hsome => (Bool.false_ne_true hsome).elim, hf⟩
      | some path =>
        rw [List.filterMap_cons_some hpath, List.length_append, List.length_cons] at hf
        have hnone : a.file = .none := by
          rw [← Option.toList_eq_nil_iff, ← List.length_eq_zero_iff]
          omega
        refine ⟨fun _ => hnone, ?_⟩
        simp only [Option.some_or, Option.toList_some, List.length_append, List.length_singleton]
        omega
    rw [List.flatMap_cons, List.append_assoc, parseFrom_render hitem hstep.1, ih hv hstep.2,
      List.foldl_cons]

theorem parse_items (hv : ∀ item ∈ items, item.Valid)
    (hf : (items.filterMap Item.file?).length ≤ 1) :
    parse (items.flatMap Item.render) = .ok (ofItems items) := by
  have h := parseFrom_items (a := none) hv hf []
  rwa [List.append_nil, parseFrom] at h

def valueFlags : List String :=
  ["-s", "--set", "--check", "-o", "--output", "--version-tag", "--config"]

lemma parseFrom_valueFlag (a : Arguments) {flag : String} (h : flag ∈ valueFlags) :
    parseFrom a [flag] = .error (.missingValue flag) := by
  simp only [valueFlags, List.mem_cons, List.not_mem_nil, or_false] at h
  rcases h with rfl | rfl | rfl | rfl | rfl | rfl | rfl <;> rfl

theorem parse_recovers_items (hv : ∀ item ∈ items, item.Valid)
    (hf : (items.filterMap Item.file?).length ≤ 1) :
    parse (items.flatMap Item.render) = .ok
      { help := false
        file := (items.filterMap Item.file?).getLast?
        edits := items.filterMap Item.edit?
        output := (items.filterMap Item.output?).getLast?
        versionTag := (items.filterMap Item.versionTag?).getLast?
        configFile := (items.filterMap Item.config?).getLast?
        noConfig := items.any Item.isNoConfig
        verbose := items.any Item.isVerbose } ∧
    ∀ flag ∈ valueFlags,
      parse (items.flatMap Item.render ++ [flag]) = .error (.missingValue flag) := by
  constructor
  · rw [parse_items hv hf, ofItems_eq]
  · intro flag hflag
    rw [parse, parseFrom_items (a := none) hv hf, parseFrom_valueFlag _ hflag]

theorem parse_recovers_items_of_values_like_flags :
    '=' ∉ " a1 ".toList ∧ Text.isBlankText " a1 " = false ∧ "x.ss".toList.head? ≠ some '-' ∧
      parse ["-s", " a1 ==b1=2", "-o", "--set", "--check", " a1 =", "--version-tag", "-h", "x.ss",
        "--output", "-o"] = .ok
        { help := false
          file := some "x.ss"
          edits := [.set "a1" "=b1=2", .check "a1" ""]
          output := some "-o"
          versionTag := some "-h"
          configFile := .none
          noConfig := false
          verbose := false } ∧
      parse ["-s", " a1 ==b1=2", "-o", "--set", "--check", " a1 =", "--version-tag", "-h", "x.ss",
        "--output", "-o", "--check"] = .error (.missingValue "--check") := by
  have hname : '=' ∉ " a1 ".toList ∧ Text.isBlankText " a1 " = false := by decide +kernel
  have hpath : "x.ss".toList.head? ≠ some '-' := by decide +kernel
  have htrimmed : Text.trimmed " a1 " = "a1" := by decide +kernel
  obtain ⟨hparse, hmissing⟩ := @parse_recovers_items [.set false " a1 " "=b1=2",
    .output false "--set", .check " a1 " "", .versionTag "-h", .file "x.ss", .output true "-o"]
    (by simp [Item.Valid, hname]) (by decide)
  refine ⟨hname.1, hname.2, hpath, hparse.trans ?_, hmissing "--check" (by decide)⟩
  simp only [List.filterMap, Item.edit?, htrimmed]
  rfl

end Items

end Arguments

end Spreadsheet
