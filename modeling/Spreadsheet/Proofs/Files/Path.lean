import Mathlib
import Spreadsheet.Files.Path

namespace Spreadsheet.Path

lemma segments_cons_slash (cs : List Char) : segments ('/' :: cs) = [] :: segments cs := rfl

lemma segments_cons {c : Char} (hc : c ≠ '/') (cs : List Char) :
    segments (c :: cs) = (c :: (segments cs).headD []) :: (segments cs).tail := if_neg hc

lemma segments_of_not_mem {segment : List Char} (h : '/' ∉ segment) :
    segments segment = [segment] := by
  induction segment with
  | nil => rfl
  | cons c cs ih =>
    obtain ⟨hc, hcs⟩ := List.ne_and_not_mem_of_not_mem_cons h
    rw [segments_cons hc.symm, ih hcs]
    rfl

lemma segments_append {segment : List Char} (h : '/' ∉ segment) (cs : List Char) :
    segments (segment ++ '/' :: cs) = segment :: segments cs := by
  induction segment with
  | nil => rfl
  | cons c segment ih =>
    obtain ⟨hc, hsegment⟩ := List.ne_and_not_mem_of_not_mem_cons h
    rw [List.cons_append, segments_cons hc.symm, ih hsegment]
    rfl

lemma not_mem_of_mem_segments {path segment : List Char} (h : segment ∈ segments path) :
    '/' ∉ segment := by
  induction path generalizing segment with
  | nil =>
    rw [List.mem_singleton.mp h]
    exact List.not_mem_nil
  | cons c cs ih =>
    by_cases hc : c = '/'
    · subst hc
      rw [segments_cons_slash] at h
      rcases List.mem_cons.mp h with rfl | h
      · exact List.not_mem_nil
      · exact ih h
    · rw [segments_cons hc] at h
      cases hcs : segments cs with
      | nil =>
        rw [hcs] at h
        rw [List.mem_singleton.mp h]
        exact fun hm => hc (List.mem_singleton.mp hm).symm
      | cons part parts =>
        rw [hcs] at h ih
        rcases List.mem_cons.mp h with rfl | h
        · exact List.not_mem_cons_of_ne_of_not_mem (Ne.symm hc) (ih List.mem_cons_self)
        · exact ih (List.mem_cons_of_mem part h)

lemma join_cons (part : List Char) {parts : List (List Char)} (h : parts ≠ []) :
    join (part :: parts) = part ++ '/' :: join parts := by
  rw [join, List.intercalate_cons_of_ne_nil h, List.append_assoc]
  rfl

lemma segments_join_append {parts : List (List Char)} {name added : List Char}
    (h : ∀ segment ∈ parts ++ [name], '/' ∉ segment) (ha : '/' ∉ added) :
    segments (join (parts ++ [name]) ++ added) = parts ++ [name ++ added] := by
  induction parts with
  | nil =>
    have hname : '/' ∉ name := h name (List.mem_singleton_self name)
    have hjoin : join [name] = name := List.intercalate_singleton
    rw [List.nil_append, hjoin]
    exact segments_of_not_mem (List.not_mem_append hname ha)
  | cons part parts ih =>
    have hparts : ∀ segment ∈ parts ++ [name], '/' ∉ segment :=
      fun segment hs => h segment (List.mem_cons_of_mem part hs)
    rw [List.cons_append, join_cons part (by simp), List.append_assoc, List.cons_append,
      segments_append (h part List.mem_cons_self), ih hparts, List.cons_append]

lemma trimmed_of_last {path : List Char} {parts : List (List Char)} {name : List Char}
    (h : segments path = parts ++ [name]) (hname : isIdle name = false) :
    trimmed path = segments path := by
  rw [trimmed, h, List.reverse_append, List.reverse_singleton, List.singleton_append,
    List.dropWhile_cons_of_neg (by simp [hname]), List.reverse_cons, List.reverse_reverse]

lemma trimmed_spec (path : List Char) {name : List Char} (h : (trimmed path).getLast? = some name) :
    isIdle name = false ∧ ∀ segment ∈ trimmed path, '/' ∉ segment := by
  rw [trimmed, List.getLast?_reverse] at h
  refine ⟨?_, fun segment hs => ?_⟩
  · have hhead := List.head?_dropWhile_not isIdle (segments path).reverse
    rw [h] at hhead
    simpa using hhead
  · rw [trimmed, List.mem_reverse] at hs
    exact not_mem_of_mem_segments (List.mem_reverse.mp ((List.dropWhile_sublist _).mem hs))

lemma hasExtension_append {name : List Char} (h : name ≠ []) :
    hasExtension (name ++ extension) = true := by
  obtain ⟨c, cs, rfl⟩ := List.exists_cons_of_ne_nil h
  simp [hasExtension, extension]

lemma not_isIdle_append {name : List Char} (h : name ≠ []) :
    isIdle (name ++ extension) = false := by
  obtain ⟨c, cs, rfl⟩ := List.exists_cons_of_ne_nil h
  simp [isIdle, extension]

lemma append_extension_ne_dots (name : List Char) : name ++ extension ≠ ['.', '.'] := by
  intro h
  have hlast := congrArg List.getLast? h
  have hextension : extension.getLast? = some 's' := rfl
  rw [List.getLast?_append, hextension, Option.some_or] at hlast
  exact absurd hlast (by decide)

lemma fileName?_eq_some {path name : List Char} : fileName? path = some name ↔
    (trimmed path).getLast? = some name ∧ name ≠ ['.', '.'] := by
  rw [fileName?]
  constructor
  · intro h
    split at h
    · rename_i last hlast
      split at h
      · cases h
      · rename_i hdots
        obtain rfl := Option.some.inj h
        exact ⟨hlast, hdots⟩
    · cases h
  · rintro ⟨hlast, hdots⟩
    rw [hlast]
    exact if_neg hdots

lemma withExtension_of_hasExtension {path name : List Char} (h : fileName? path = some name)
    (hname : hasExtension name = true) : withExtension path = path := by
  simp only [withExtension, h, hname, if_true]

lemma withExtension_withExtension (path : List Char) :
    withExtension (withExtension path) = withExtension path := by
  cases hf : fileName? path with
  | none =>
    have hself : withExtension path = path := by simp only [withExtension, hf]
    rw [hself, hself]
  | some name =>
    cases he : hasExtension name with
    | true => rw [withExtension_of_hasExtension hf he, withExtension_of_hasExtension hf he]
    | false =>
      have hadded : withExtension path = join (trimmed path) ++ extension := by
        simp [withExtension, hf, he]
      obtain ⟨hlast, -⟩ := fileName?_eq_some.mp hf
      obtain ⟨hidle, hslash⟩ := trimmed_spec path hlast
      obtain ⟨parts, hparts⟩ := List.getLast?_eq_some_iff.mp hlast
      have hne : name ≠ [] := by
        rintro rfl
        cases hidle
      rw [hparts] at hslash
      have hsegments : segments (withExtension path) = parts ++ [name ++ extension] := by
        rw [hadded, hparts]
        exact segments_join_append hslash (by decide)
      have hfile : fileName? (withExtension path) = some (name ++ extension) := by
        rw [fileName?_eq_some, trimmed_of_last hsegments (not_isIdle_append hne), hsegments]
        exact ⟨List.getLast?_concat, append_extension_ne_dots name⟩
      exact withExtension_of_hasExtension hfile (hasExtension_append hne)

lemma forSaving_forSaving (path : String) : forSaving (forSaving path) = forSaving path := by
  rw [forSaving, forSaving, String.toList_ofList, withExtension_withExtension]

end Spreadsheet.Path
