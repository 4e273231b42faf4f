import Spreadsheet.Document.Grammar
import Spreadsheet.Proofs.Text.Span

namespace Spreadsheet.Markup

variable {cs rest : List Char}

lemma splitAtMark_eq_some_iff {q : Char} {raw : List Char} :
    splitAtMark [q] cs = some (raw, rest) ↔ q ∉ raw ∧ cs = raw ++ q :: rest := by
  induction cs generalizing raw with
  | nil => simp [splitAtMark]
  | cons c cs ih =>
    by_cases hc : c = q
    · subst hc
      rw [splitAtMark, if_pos (by simp)]
      cases raw with
      | nil => simp
      | cons d raw =>
        constructor
        · intro h
          cases h
        · rintro ⟨hmem, h⟩
          exact (hmem ((List.cons.inj h).1 ▸ List.mem_cons_self)).elim
    · rw [splitAtMark, if_neg (by simpa using Ne.symm hc)]
      cases raw with
      | nil => simp [consFirst, hc]
      | cons d raw =>
        simp only [Option.map_eq_some_iff, Prod.exists, consFirst, Prod.mk.injEq, List.cons.injEq,
          List.mem_cons, List.cons_append]
        constructor
        · rintro ⟨raw', rest', h, ⟨rfl, rfl⟩, rfl⟩
          obtain ⟨hmem, rfl⟩ := ih.mp h
          exact ⟨not_or.mpr ⟨Ne.symm hc, hmem⟩, rfl, rfl⟩
        · rintro ⟨hmem, rfl, h⟩
          exact ⟨raw, rest, ih.mpr ⟨fun hq => hmem (Or.inr hq), h⟩, ⟨rfl, rfl⟩, rfl⟩

lemma readValue_eq_ok_iff {key : List Char} {found : Attribute} :
    readValue key cs = .ok (found, rest) ↔ ∃ blanks blanks' q raw, found = ⟨key, raw⟩ ∧
      blanks.all isSpace = true ∧ blanks'.all isSpace = true ∧ isQuote q = true ∧ q ∉ raw ∧
      cs = blanks ++ '=' :: (blanks' ++ q :: (raw ++ q :: rest)) := by
  constructor
  · intro h
    unfold readValue at h
    split at h
    · rename_i after hequals
      obtain ⟨blanks, hblanks, -, rfl⟩ := Text.dropWhile_eq_cons_iff.mp hequals
      split at h
      · rename_i q value hq
        obtain ⟨blanks', hblanks', -, rfl⟩ := Text.dropWhile_eq_cons_iff.mp hq
        split at h
        · rename_i hquote
          split at h
          · rename_i raw rest' hsplit
            obtain ⟨hmem, rfl⟩ := splitAtMark_eq_some_iff.mp hsplit
            obtain ⟨rfl, rfl⟩ := Prod.mk.inj (Except.ok.inj h)
            exact ⟨blanks, blanks', q, raw, rfl, hblanks, hblanks', hquote, hmem, rfl⟩
          · cases h
        · cases h
      · cases h
    · cases h
  · rintro ⟨blanks, blanks', q, raw, rfl, hblanks, hblanks', hquote, hmem, rfl⟩
    have hspace : isSpace q = false := by
      rw [isQuote, Bool.or_eq_true, beq_iff_eq, beq_iff_eq] at hquote
      rcases hquote with rfl | rfl <;> rfl
    have hsign : isSpace '=' = false := rfl
    have hequals := Text.dropWhile_eq_cons_iff.mpr ⟨blanks, hblanks, hsign,
      show blanks ++ '=' :: (blanks' ++ q :: (raw ++ q :: rest)) = _ from rfl⟩
    have hopening := Text.dropWhile_eq_cons_iff.mpr ⟨blanks', hblanks', hspace,
      show blanks' ++ q :: (raw ++ q :: rest) = _ from rfl⟩
    have hsplit := splitAtMark_eq_some_iff.mpr ⟨hmem, show raw ++ q :: rest = _ from rfl⟩
    simp only [readValue, hequals, hopening, hquote, if_true, hsplit]

lemma readAttribute_eq_ok_iff {c : Char} {after : List Char} {found : Attribute}
    (hstart : cs.dropWhile isSpace = c :: after) :
    readAttribute c after = .ok (found, rest) ↔
      ∃ text, AttributeText found text ∧ cs = text ++ rest := by
  rw [readAttribute, readValue_eq_ok_iff]
  constructor
  · rintro ⟨blanks', blanks'', q, raw, rfl, hblanks', hblanks'', hq, hraw, hvalue⟩
    obtain ⟨blanks, hblanks, hc, rfl⟩ := Text.dropWhile_eq_cons_iff.mp hstart
    refine ⟨_, .intro hblanks hc List.all_takeWhile hblanks' hblanks'' hq hraw, ?_⟩
    conv_lhs => rw [← List.takeWhile_append_dropWhile (p := inKey) (l := after), hvalue]
    simp only [List.append_assoc, List.cons_append, List.nil_append]
  · rintro ⟨text, htext, rfl⟩
    cases htext with
    | @intro blanks key blanks' blanks'' raw d q hblanks hd hkey hblanks' hblanks'' hq hraw =>
      have hafter : (blanks ++ d :: key ++ blanks' ++ '=' :: blanks'' ++ q :: raw ++ [q] ++
          rest).dropWhile isSpace =
          d :: (key ++ (blanks' ++ '=' :: (blanks'' ++ q :: (raw ++ q :: rest)))) := by
        apply Text.dropWhile_eq_cons_iff.mpr
        refine ⟨blanks, hblanks, hd, ?_⟩
        simp only [List.append_assoc, List.cons_append, List.nil_append]
      obtain ⟨rfl, rfl⟩ := List.cons.inj (hstart.symm.trans hafter)
      have hkey := List.all_eq_true.mp hkey
      have hstops : Text.Stops inKey
          (blanks' ++ '=' :: (blanks'' ++ q :: (raw ++ q :: rest))) := by
        cases blanks' with
        | nil => exact Text.stops_cons.mpr rfl
        | cons b blanks' =>
          have hb : isSpace b = true := (Bool.and_eq_true_iff.mp hblanks').1
          apply Text.stops_cons.mpr
          rw [inKey, hb, Bool.not_true, Bool.and_false]
      rw [Text.takeWhile_append hkey hstops, Text.dropWhile_append hkey hstops]
      exact ⟨blanks', blanks'', q, raw, rfl, hblanks', hblanks'', hq, hraw, rfl⟩

lemma dropWhile_ne_nil_of_attributeText {found : Attribute} (h : AttributeText found cs) :
    (cs ++ rest).dropWhile isSpace ≠ [] := by
  cases h with
  | @intro blanks key blanks' blanks'' raw c q _ hc _ _ _ _ _ =>
    intro hnil
    have hall := List.dropWhile_eq_nil_iff.mp hnil c (by simp)
    rw [hc] at hall
    cases hall

lemma findAttribute_of_text {key text : List Char} {found : Attribute}
    (h : AttributeText found text) : findAttribute key (text ++ rest) =
      if found.key = key then .ok (some found) else findAttribute key rest := by
  rw [findAttribute]
  split
  · rename_i hnil
    exact (dropWhile_ne_nil_of_attributeText h hnil).elim
  · rename_i c after hstart
    have hread := (readAttribute_eq_ok_iff hstart).mpr ⟨text, h, rfl⟩
    split
    · rename_i e he
      cases hread.symm.trans he
    · rename_i found' rest' he
      obtain ⟨rfl, rfl⟩ := Prod.mk.inj (Except.ok.inj (hread.symm.trans he))
      rfl

lemma exists_text_of_findAttribute {key : List Char} {found : Attribute}
    (h : findAttribute key cs = .ok (some found)) :
    ∃ first text rest, AttributeText first text ∧ cs = text ++ rest := by
  rw [findAttribute] at h
  split at h
  · cases h
  · rename_i c after hstart
    split at h
    · cases h
    · rename_i first rest hread
      obtain ⟨text, htext, hcs⟩ := (readAttribute_eq_ok_iff hstart).mp hread
      exact ⟨first, text, rest, htext, hcs⟩

lemma AttributeText.ne_nil {found : Attribute} (h : AttributeText found cs) : cs ≠ [] := by
  cases h
  apply List.append_ne_nil_of_right_ne_nil
  exact List.cons_ne_nil _ _

theorem findAttribute_eq_some_iff {key : List Char} {found : Attribute} :
    findAttribute key cs = .ok (some found) ↔
      found.key = key ∧ FirstAttribute key found.raw cs := by
  constructor
  · intro h
    induction hn : cs.length using Nat.strong_induction_on generalizing cs with
    | h n ih =>
      obtain ⟨first, text, rest, htext, rfl⟩ := exists_text_of_findAttribute h
      rw [findAttribute_of_text htext] at h
      split at h
      · rename_i hkey
        obtain rfl := Option.some.inj (Except.ok.inj h)
        subst hkey
        exact ⟨rfl, .here htext⟩
      · rename_i hkey
        have hshorter : rest.length < n := by
          have htext := List.length_pos_of_ne_nil htext.ne_nil
          rw [← hn, List.length_append]
          omega
        obtain ⟨hfound, hfirst⟩ := ih rest.length hshorter h rfl
        exact ⟨hfound, .later htext hkey hfirst⟩
  · rintro ⟨rfl, h⟩
    induction h with
    | here h => rw [findAttribute_of_text h, if_pos rfl]
    | later hfound hkey _ ih => rw [findAttribute_of_text hfound, if_neg hkey, ih]

end Spreadsheet.Markup
