import Mathlib
import Spreadsheet.Proofs.Formula.Lexeme

namespace Spreadsheet

namespace Text

variable {p : Char → Bool} {rest : List Char}

lemma takeWhile_append_of_stops (h : Stops p rest) (cs : List Char) :
    (cs ++ rest).takeWhile p = cs.takeWhile p := by
  induction cs with
  | nil => exact h.takeWhile
  | cons c cs ih => simp [List.takeWhile_cons, ih]

lemma dropWhile_append_of_stops (h : Stops p rest) (cs : List Char) :
    (cs ++ rest).dropWhile p = cs.dropWhile p ++ rest := by
  induction cs with
  | nil => exact h.dropWhile
  | cons c cs ih =>
    rw [List.cons_append, List.dropWhile_cons, List.dropWhile_cons, ih]
    split <;> rfl

lemma Stops.of_append {cs : List Char} (h : Stops p (cs ++ rest)) : Stops p cs := by
  cases cs with
  | nil => exact stops_nil
  | cons c cs => exact h

end Text

namespace Lexeme

open Text

def BlankFirst (rest : List Char) : Prop := ∀ c ∈ rest.head?, isBlank c = true

section Cut

variable {rest : List Char} (hr : BlankFirst rest)
include hr

lemma BlankFirst.ends : Ends rest := by
  cases rest with
  | nil => exact fun c hc => by cases hc
  | cons c rest => exact ends_of_isBlank (hr c rfl)

lemma BlankFirst.stops_isAlpha : Stops Char.isAlpha rest := by
  intro c hc
  rw [Bool.eq_false_iff]
  intro ha
  have hblank := hr c hc
  rw [isBlank_of_isAlpha ha] at hblank
  cases hblank

lemma BlankFirst.ne_cons {d : Char} (hd : isBlank d = false) (ds : List Char) : rest ≠ d :: ds := by
  rintro rfl
  cases hd.symm.trans (hr d rfl)

lemma splitSign_append_blank (cs : List Char) :
    splitSign (cs ++ rest) = ((splitSign cs).1, (splitSign cs).2 ++ rest) := by
  cases cs with
  | nil =>
    rw [List.nil_append, splitSign]
    · rfl
    · exact hr.ne_cons rfl
    · exact hr.ne_cons rfl
  | cons c cs =>
    by_cases hplus : c = '+'
    · subst hplus
      rfl
    by_cases hminus : c = '-'
    · subst hminus
      rfl
    simp [splitSign, hplus, hminus]

lemma splitExponent_append_blank (cs : List Char) :
    splitExponent (cs ++ rest) = ((splitExponent cs).1, (splitExponent cs).2 ++ rest) := by
  have hdigit := hr.ends.stops
  cases cs with
  | nil =>
    rw [List.nil_append, splitExponent]
    · rfl
    · exact hr.ne_cons rfl
  | cons c cs =>
    by_cases hc : c = 'e'
    · subst hc
      simp only [List.cons_append, splitExponent, splitSign_append_blank hr,
        takeWhile_append_of_stops hdigit, dropWhile_append_of_stops hdigit]
      split <;> rfl
    · simp [splitExponent, hc]

lemma splitMantissa_append_blank (cs : List Char) :
    splitMantissa (cs ++ rest) = ((splitMantissa cs).1, (splitMantissa cs).2 ++ rest) := by
  have hdigit := hr.ends.stops
  simp only [splitMantissa, takeWhile_append_of_stops hdigit, dropWhile_append_of_stops hdigit]
  cases cs.dropWhile Char.isDigit with
  | nil =>
    rw [List.nil_append]
    split
    · exact (hr.ne_cons rfl _ rfl).elim
    · rfl
  | cons c ds =>
    by_cases hc : c = '.'
    · subst hc
      simp [takeWhile_append_of_stops hdigit, dropWhile_append_of_stops hdigit]
    · simp [hc]

lemma cutNumber_append_blank (cs : List Char) :
    cutNumber (cs ++ rest) = ((cutNumber cs).1, (cutNumber cs).2 ++ rest) := by
  simp only [cutNumber, splitMantissa_append_blank hr, splitExponent_append_blank hr]

lemma cutWord_append_blank (cs : List Char) :
    cutWord (cs ++ rest) = ((cutWord cs).1, (cutWord cs).2 ++ rest) := by
  have hdigit := hr.ends.stops
  simp only [cutWord, takeWhile_append_of_stops hr.stops_isAlpha,
    dropWhile_append_of_stops hr.stops_isAlpha, takeWhile_append_of_stops hdigit,
    dropWhile_append_of_stops hdigit]
  split <;> rfl

lemma startsNumber_append_blank (c : Char) (cs : List Char) :
    startsNumber c (cs ++ rest) = startsNumber c cs := by
  cases cs with
  | nil =>
    have hhead : rest.head?.any Char.isDigit = false := by
      cases rest with
      | nil => rfl
      | cons d rest => exact (hr.ends d rfl).1
    simp [startsNumber, hhead]
  | cons d cs => rfl

lemma cut_append_blank {c : Char} (hc : isBlank c = false) (cs : List Char) :
    cut c (cs ++ rest) = ((cut c cs).1, (cut c cs).2 ++ rest) := by
  simp only [cut, hc, Bool.false_eq_true, if_false, startsNumber_append_blank hr,
    ← List.cons_append, cutWord_append_blank hr, cutNumber_append_blank hr]
  split
  · rfl
  split
  · rfl
  split
  · rfl
  split
  · rfl
  split <;> rfl

omit hr in
lemma cutBlanks_append_of_stops {cs : List Char} (hcs : cs ≠ [])
    (hlast : Stops isBlank cs.reverse) :
    cutBlanks (cs ++ rest) = ((cutBlanks cs).1, (cutBlanks cs).2 ++ rest) := by
  cases hdrop : cs.dropWhile isBlank with
  | nil =>
    obtain ⟨d, ds, hd⟩ := List.exists_cons_of_ne_nil (List.reverse_ne_nil_iff.mpr hcs)
    have hmem : d ∈ cs := List.mem_reverse.mp (hd ▸ List.mem_cons_self)
    cases (hlast d (hd ▸ rfl)).symm.trans (List.dropWhile_eq_nil_iff.mp hdrop d hmem)
  | cons d ds =>
    obtain ⟨taken, htaken, hd, rfl⟩ := dropWhile_eq_cons_iff.mp hdrop
    rw [List.all_eq_true] at htaken
    have hstops (tail : List Char) : Stops isBlank (d :: tail) := stops_cons.mpr hd
    simp only [cutBlanks, List.append_assoc, List.cons_append,
      takeWhile_append htaken (hstops _), dropWhile_append htaken (hstops _)]

lemma pieces_append_blank (cs : List Char) (hlast : Stops isBlank cs.reverse) :
    pieces (cs ++ rest) = pieces cs ++ pieces rest := by
  induction cs using pieces.induct with
  | case1 => rw [pieces, List.nil_append, List.nil_append]
  | case2 c cs ih =>
    have hcut : cut c (cs ++ rest) = ((cut c cs).1, (cut c cs).2 ++ rest) := by
      cases hc : isBlank c with
      | false => exact cut_append_blank hr hc cs
      | true =>
        rw [cut_blank hc, cut_blank hc]
        exact cutBlanks_append_of_stops (List.cons_ne_nil c cs) hlast
    have hrest : Stops isBlank (cut c cs).2.reverse := by
      rw [← cut_append c cs, List.reverse_append] at hlast
      exact hlast.of_append
    rw [List.cons_append, pieces, hcut, pieces, List.cons_append, ih hrest]

end Cut

section Join

def Separated (ps : List Piece) : Prop := ∀ p ∈ ps.head?, p.kind = none

variable {qs : List Piece}

lemma join_append (p : Piece) (ps : List Piece) (hqs : Separated qs) :
    join p (ps ++ qs) = join p ps ++ qs := by
  cases ps with
  | nil =>
    cases qs with
    | nil => rfl
    | cons q qs => simp [join, hqs q rfl]
  | cons r ps =>
    simp only [List.cons_append, join]
    split <;> rfl

lemma Separated.foldr_join (hqs : Separated qs) : Separated (qs.foldr join []) := by
  cases qs with
  | nil => exact hqs
  | cons q qs =>
    have hq := hqs q rfl
    rw [List.foldr_cons]
    cases qs.foldr join [] with
    | nil => exact hqs
    | cons r rs => simp [join, hq, Separated]

lemma foldr_join_append (ps : List Piece) (hqs : Separated qs) :
    (ps ++ qs).foldr join [] = ps.foldr join [] ++ qs.foldr join [] := by
  induction ps with
  | nil => rfl
  | cons p ps ih =>
    rw [List.cons_append, List.foldr_cons, List.foldr_cons, ih]
    exact join_append p _ hqs.foldr_join

lemma BlankFirst.separated {rest : List Char} (hr : BlankFirst rest) :
    Separated (pieces rest) := by
  cases rest with
  | nil =>
    rw [pieces]
    exact fun p hp => by cases hp
  | cons c rest =>
    rw [pieces, cut_blank (hr c rfl)]
    intro p hp
    rw [← Option.some.inj hp]
    rfl

end Join

theorem scan_append_blank {cs rest : List Char} (hlast : Stops isBlank cs.reverse)
    (hr : BlankFirst rest) : scan (cs ++ rest) = scan cs ++ scan rest := by
  rw [scan, pieces_append_blank hr cs hlast, foldr_join_append _ hr.separated,
    List.filterMap_append]
  rfl

lemma scan_blanks {cs : List Char} (hcs : ∀ c ∈ cs, isBlank c = true) : scan cs = [] := by
  have h := (Cuts.nil.blanks hcs stops_nil).scan_eq
  rwa [List.append_nil] at h

lemma scan_trimEnd (cs : List Char) : scan (trimEnd cs) = scan cs := by
  have hcs : trimEnd cs ++ (cs.reverse.takeWhile isBlank).reverse = cs := by
    rw [trimEnd, ← List.reverse_append, List.takeWhile_append_dropWhile, List.reverse_reverse]
  have hblank : ∀ c ∈ (cs.reverse.takeWhile isBlank).reverse, isBlank c = true := fun c hc =>
    List.mem_takeWhile_imp (List.mem_reverse.mp hc)
  have hlast : Stops isBlank (trimEnd cs).reverse := by
    rw [trimEnd, List.reverse_reverse]
    exact stops_dropWhile isBlank cs.reverse
  have hscan := scan_append_blank hlast fun c hc => hblank c (List.mem_of_head? hc)
  rw [hcs, scan_blanks hblank, List.append_nil] at hscan
  exact hscan.symm

end Lexeme

end Spreadsheet
