import Mathlib
import Spreadsheet.Proofs.Formula.Lexeme

namespace Spreadsheet

namespace Lexeme

open Text

def Unspelled (cs : List Char) : Prop := ∀ kind text, Spelled kind text → ¬ text <+: cs

section Longest

variable {whole fraction exponent : List Char}

lemma length_le_splitExponent (he : IsExponent exponent) (rest : List Char) :
    exponent.length ≤ (splitExponent (exponent ++ rest)).1.length := by
  rcases he with rfl | ⟨sign, ds, rfl, hsign, hne, hds⟩
  · exact Nat.zero_le _
  · have hlength := length_le_takeWhile hds rest
    have hdigits : (ds ++ rest).takeWhile Char.isDigit ≠ [] := by
      rw [← List.length_pos_iff] at hne ⊢
      exact hne.trans_le hlength
    rw [List.cons_append, List.cons_append, List.append_assoc, splitExponent,
      splitSign_spelled hsign hne hds]
    simp only [hdigits, if_false, List.length_append, List.length_cons]
    omega

lemma length_le_splitMantissa (hw : ∀ c ∈ whole, c.isDigit = true) (hf : IsFraction fraction)
    (rest : List Char) :
    (whole ++ fraction).length ≤ (splitMantissa (whole ++ (fraction ++ rest))).1.length := by
  rcases hf with rfl | ⟨ds, rfl, hds⟩
  · obtain ⟨fraction, -, hmantissa⟩ := exists_fraction_splitMantissa (whole ++ ([] ++ rest))
    have hlength := length_le_takeWhile hw ([] ++ rest)
    rw [hmantissa, List.append_nil, List.length_append]
    omega
  · have hpoint : Stops Char.isDigit ('.' :: ds ++ rest) := stops_cons.mpr rfl
    have hlength := length_le_takeWhile hds rest
    rw [splitMantissa, takeWhile_append hw hpoint, dropWhile_append hw hpoint, List.cons_append]
    simp only [List.length_append, List.length_cons]
    omega

lemma length_le_cutNumber (hw : ∀ c ∈ whole, c.isDigit = true) (hf : IsFraction fraction)
    (he : IsExponent exponent) (rest : List Char) : (whole ++ (fraction ++ exponent)).length ≤
      (cutNumber (whole ++ (fraction ++ exponent) ++ rest)).1.text.length := by
  rw [List.append_assoc, List.append_assoc, cutNumber]
  dsimp only
  rcases eq_or_ne exponent [] with rfl | hne
  · have hmantissa := length_le_splitMantissa hw hf rest
    simp only [List.nil_append, List.append_nil, List.length_append] at hmantissa ⊢
    omega
  · have hhead : ∀ c ∈ (exponent ++ rest).head?, c = 'e' := by
      obtain ⟨sign, ds, rfl, -⟩ := he.resolve_left hne
      exact fun c hc => (Option.some.inj hc).symm
    have hmantissa : splitMantissa (whole ++ (fraction ++ (exponent ++ rest))) =
        (whole ++ fraction, exponent ++ rest) := by
      apply splitMantissa_spelled hw hf
      · intro c hc
        rw [hhead c hc]
        rfl
      · intro hc
        exact absurd (hhead '.' hc) (by decide)
    have hexponent := length_le_splitExponent he rest
    rw [hmantissa]
    simp only [List.length_append] at hexponent ⊢
    omega

lemma cutWord_longest {letters digits : List Char} (hl : ∀ c ∈ letters, c.isAlpha = true)
    (hd : ∀ c ∈ digits, c.isDigit = true) (hne : digits ≠ []) (rest : List Char) :
    (cutWord (letters ++ digits ++ rest)).1.kind = some .variable ∧
      (letters ++ digits).length ≤ (cutWord (letters ++ digits ++ rest)).1.text.length := by
  have hstop : Stops Char.isAlpha (digits ++ rest) := by
    obtain ⟨d, ds, rfl⟩ := List.exists_cons_of_ne_nil hne
    exact stops_cons.mpr (isAlpha_of_isDigit (hd d List.mem_cons_self))
  have hlength := length_le_takeWhile hd rest
  have hdigits : (digits ++ rest).takeWhile Char.isDigit ≠ [] := by
    rw [← List.length_pos_iff] at hne ⊢
    exact hne.trans_le hlength
  rw [List.append_assoc, cutWord, takeWhile_append hl hstop, dropWhile_append hl hstop]
  simp only [hdigits, if_false, true_and, List.length_append]
  omega

lemma cut_longest {kind : Kind} {text : List Char} {c : Char} {cs : List Char}
    (h : Spelled kind text) (hcs : text <+: c :: cs) :
    (cut c cs).1.kind = some kind ∧ text.length ≤ (cut c cs).1.text.length := by
  obtain ⟨rest, hrest⟩ := hcs
  have hpos : 1 ≤ (cut c cs).1.text.length := List.length_pos_iff.mpr (cut_text_ne_nil c cs)
  cases h with
  | leftParen =>
    obtain ⟨rfl, rfl⟩ := List.cons.inj hrest
    exact ⟨rfl, hpos⟩
  | rightParen =>
    obtain ⟨rfl, rfl⟩ := List.cons.inj hrest
    exact ⟨rfl, hpos⟩
  | operator op =>
    obtain ⟨rfl, rfl⟩ := List.cons.inj hrest
    exact ⟨by cases op <;> rfl, hpos⟩
  | @«variable» letters digits hl hd hl' hd' =>
    have hc : c.isAlpha = true := by
      obtain ⟨l, ls, rfl⟩ := List.exists_cons_of_ne_nil hl'
      rw [← (List.cons.inj hrest).1]
      exact hl l List.mem_cons_self
    rw [cut_word hc, ← hrest]
    exact cutWord_longest hl hd hd' rest
  | @number whole fraction exponent hw hf he hn =>
    obtain ⟨d, ds, hds⟩ := List.exists_cons_of_ne_nil (Spelled.number hw hf he hn).ne_nil
    have hstart : startsNumber c cs = true := by
      rw [hds, List.cons_append] at hrest
      obtain ⟨rfl, rfl⟩ := List.cons.inj hrest
      exact startsNumber_spelled hw hf hn hds.symm
    rw [cut_number hstart, ← hrest]
    exact ⟨rfl, length_le_cutNumber hw hf he rest⟩

end Longest

section Pieces

lemma Unspelled.of_cut {c : Char} {cs : List Char} (h : (cut c cs).1.kind = some .invalid) :
    Unspelled (c :: cs) := by
  intro kind text htext hcs
  obtain rfl := Option.some.inj ((cut_longest htext hcs).1.symm.trans h)
  cases htext

inductive Fits (rest : List Char) : Piece → Prop
  | blanks {cs : List Char} (hne : cs ≠ []) (hb : ∀ c ∈ cs, isBlank c = true) : Fits rest ⟨none, cs⟩
  | spelled {kind : Kind} {cs : List Char} (h : Spelled kind cs)
    (hmax : ∀ text, Spelled kind text → text <+: cs ++ rest → text.length ≤ cs.length) :
    Fits rest ⟨some kind, cs⟩
  | junk {cs : List Char} (hne : cs ≠ []) (hb : ∀ c ∈ cs, isBlank c = false)
    (h : ∀ before after, cs = before ++ after → after ≠ [] → Unspelled (after ++ rest)) :
    Fits rest ⟨some .invalid, cs⟩

lemma fits_letters {letters rest : List Char} (hne : letters ≠ [])
    (hl : ∀ c ∈ letters, c.isAlpha = true) (halpha : Stops Char.isAlpha rest)
    (hdigit : rest.takeWhile Char.isDigit = []) : Fits rest ⟨some .invalid, letters⟩ := by
  refine .junk hne (fun c hc => isBlank_of_isAlpha (hl c hc)) fun before after hletters hafter => ?_
  obtain ⟨d, ds, rfl⟩ := List.exists_cons_of_ne_nil hafter
  have hds : ∀ c ∈ d :: ds, c.isAlpha = true := fun c hc =>
    hl c (hletters ▸ List.mem_append_right before hc)
  apply Unspelled.of_cut
  change (cut d (ds ++ rest)).1.kind = some .invalid
  rw [cut_word (hds d List.mem_cons_self), ← List.cons_append, cutWord,
    dropWhile_append hds halpha, hdigit]
  rfl

lemma isBlank_of_cut {c : Char} {cs : List Char} (h : (cut c cs).1.kind = none) :
    isBlank c = true := by
  rw [cut] at h
  split at h
  · cases h
  split at h
  · cases h
  split at h
  · cases h
  split at h
  · rw [cutWord] at h
    split at h <;> cases h
  split at h
  · cases h
  split at h
  · assumption
  · cases h

lemma cut_junk {c : Char} {cs : List Char} (ha : c.isAlpha = false)
    (h : (cut c cs).1.kind = some .invalid) :
    cut c cs = (⟨some .invalid, [c]⟩, cs) ∧ isBlank c = false := by
  by_cases hleft : c = '('
  · subst hleft
    cases h
  by_cases hright : c = ')'
  · subst hright
    cases h
  rw [cut, if_neg hleft, if_neg hright, ha] at h ⊢
  cases hop : Operator.ofSymbol? c with
  | some op =>
    rw [hop] at h
    cases h
  | none =>
    rw [hop] at h
    simp only [Bool.false_eq_true, if_false] at h ⊢
    split_ifs at h ⊢ with hnumber hblank
    · cases h
    · cases h
    · exact ⟨rfl, Bool.eq_false_iff.mpr hblank⟩

lemma fits_of_junk {c : Char} {cs : List Char} (h : (cut c cs).1.kind = some .invalid) :
    Fits (cut c cs).2 (cut c cs).1 := by
  cases ha : c.isAlpha with
  | false =>
    obtain ⟨hcut, hblank⟩ := cut_junk ha h
    have hunspelled : Unspelled (c :: cs) := .of_cut h
    rw [hcut]
    refine .junk (List.cons_ne_nil c []) (by simpa using hblank) fun before after hc hafter => ?_
    rcases List.append_eq_singleton_iff.mp hc.symm with ⟨-, rfl⟩ | ⟨-, rfl⟩
    · exact hunspelled
    · exact (hafter rfl).elim
  | true =>
    have hne : (c :: cs).takeWhile Char.isAlpha ≠ [] := by
      rw [List.takeWhile_cons_of_pos ha]
      exact List.cons_ne_nil _ _
    rw [cut_word ha, cutWord] at h ⊢
    split_ifs at h ⊢ with hdigits
    · exact fits_letters hne (fun d hd => List.mem_takeWhile_imp hd) (stops_dropWhile _ _) hdigits
    · cases h

lemma fits_cut (c : Char) (cs : List Char) : Fits (cut c cs).2 (cut c cs).1 := by
  cases hkind : (cut c cs).1.kind with
  | none =>
    have hc := isBlank_of_cut hkind
    rw [cut_blank hc]
    refine .blanks ?_ fun d hd => List.mem_takeWhile_imp hd
    rw [List.takeWhile_cons_of_pos hc]
    exact List.cons_ne_nil _ _
  | some kind =>
    by_cases hk : kind = .invalid
    · exact fits_of_junk (hk ▸ hkind)
    · have hfits := Fits.spelled (spelled_of_cut hkind hk) fun text htext hprefix =>
        (cut_longest htext ((cut_append c cs) ▸ hprefix)).2
      rwa [← hkind] at hfits

lemma Fits.ne_nil {rest : List Char} {p : Piece} (h : Fits rest p) : p.text ≠ [] := by
  cases h with
  | blanks hne => exact hne
  | spelled h => exact h.ne_nil
  | junk hne => exact hne

lemma Fits.append_junk {cs ds rest : List Char} (h : Fits (ds ++ rest) ⟨some .invalid, cs⟩)
    (h' : Fits rest ⟨some .invalid, ds⟩) : Fits rest ⟨some .invalid, cs ++ ds⟩ := by
  cases h with
  | spelled h => cases h
  | junk hne hb hcs =>
    cases h' with
    | spelled h => cases h
    | junk hne' hb' hds =>
      refine .junk (List.append_ne_nil_of_left_ne_nil hne ds) ?_ fun before after heq hafter => ?_
      · exact List.forall_mem_append.mpr ⟨hb, hb'⟩
      · rcases List.append_eq_append_iff.mp heq with ⟨mid, -, hmid⟩ | ⟨mid, hmid, rfl⟩
        · exact hds mid after hmid hafter
        · cases mid with
          | nil => exact hds [] ds rfl hne'
          | cons c mid =>
            rw [List.append_assoc]
            exact hcs before (c :: mid) hmid (List.cons_ne_nil c mid)

inductive Laid : List Piece → List Char → Prop
  | nil : Laid [] []
  | cons {p : Piece} {ps : List Piece} {rest : List Char} (hp : Fits rest p) (h : Laid ps rest) :
    Laid (p :: ps) (p.text ++ rest)

lemma laid_pieces (cs : List Char) : Laid (pieces cs) cs := by
  induction cs using pieces.induct with
  | case1 =>
    rw [pieces]
    exact .nil
  | case2 c cs ih =>
    have hlaid := Laid.cons (fits_cut c cs) ih
    rw [cut_append] at hlaid
    rwa [pieces]

lemma Laid.join {p : Piece} {ps : List Piece} {rest : List Char} (hp : Fits rest p)
    (h : Laid ps rest) : Laid (join p ps) (p.text ++ rest) := by
  cases h with
  | nil => exact .cons hp .nil
  | @cons q ps rest hq h =>
    rw [Lexeme.join]
    split_ifs with hjunk
    · obtain ⟨pkind, ptext⟩ := p
      obtain ⟨qkind, qtext⟩ := q
      obtain ⟨rfl, rfl⟩ := hjunk
      rw [← List.append_assoc]
      exact Laid.cons (hp.append_junk hq) h
    · exact .cons hp (.cons hq h)

lemma Laid.foldr_join {ps : List Piece} {cs : List Char} (h : Laid ps cs) :
    Laid (ps.foldr Lexeme.join []) cs := by
  induction h with
  | nil => exact .nil
  | cons hp _ ih => exact .join hp ih

def Apart (p q : Piece) : Prop := ¬ (p.kind = some .invalid ∧ q.kind = some .invalid)

lemma isChain_foldr_join (ps : List Piece) : (ps.foldr Lexeme.join []).IsChain Apart := by
  induction ps with
  | nil => exact .nil
  | cons p ps ih =>
    rw [List.foldr_cons]
    generalize ps.foldr Lexeme.join [] = qs at ih
    cases qs with
    | nil => exact .singleton p
    | cons q qs =>
      rw [Lexeme.join]
      split_ifs with hjunk
      · cases qs with
        | nil => exact .singleton _
        | cons r qs =>
          obtain ⟨hqr, hqs⟩ := List.isChain_cons_cons.mp ih
          refine List.isChain_cons_cons.mpr ⟨fun h => hqr ⟨hjunk.2, h.2⟩, hqs⟩
      · exact List.isChain_cons_cons.mpr ⟨hjunk, ih⟩

end Pieces

section Places

def places (start : ℕ) : List Piece → List (ℕ × Lexeme)
  | [] => []
  | p :: ps =>
    (ofPiece? p).toList.map (start, ·) ++ places (start + p.text.length) ps

lemma map_snd_places (start : ℕ) (ps : List Piece) :
    (places start ps).map Prod.snd = ps.filterMap ofPiece? := by
  induction ps generalizing start with
  | nil => rfl
  | cons p ps ih =>
    rw [places, List.map_append, ih, List.filterMap_cons]
    cases ofPiece? p <;> rfl

structure CutAt (cs : List Char) (start : ℕ) (l : Lexeme) : Prop where
  ne_nil : l.text ≠ []
  part : l.text <+: cs.drop start
  not_isBlank : ∀ c ∈ l.text, isBlank c = false
  spelled : l.kind ≠ .invalid → Spelled l.kind l.text
  longest : ∀ text, Spelled l.kind text → text <+: cs.drop start → text.length ≤ l.text.length
  unspelled : l.kind = .invalid → ∀ i < l.text.length, Unspelled (cs.drop (start + i))

structure Follows (cs : List Char) (a b : ℕ × Lexeme) : Prop where
  le : a.1 + a.2.text.length ≤ b.1
  blanks : ∀ c ∈ cs.extract (a.1 + a.2.text.length) b.1, isBlank c = true
  lt_of_invalid : a.2.kind = .invalid → b.2.kind = .invalid → a.1 + a.2.text.length < b.1

variable {cs rest : List Char} {start : ℕ} {p : Piece} {ps : List Piece}

lemma Fits.cutAt (h : Fits rest p) {l : Lexeme} (hl : ofPiece? p = some l)
    (hcs : cs.drop start = p.text ++ rest) : CutAt cs start l := by
  have hpart : p.text <+: cs.drop start := ⟨rest, hcs.symm⟩
  cases h with
  | blanks => cases hl
  | spelled h hmax =>
    obtain rfl := Option.some.inj hl
    refine ⟨h.ne_nil, hpart, h.not_isBlank, fun _ => h, fun text htext hprefix => ?_, ?_⟩
    · exact hmax text htext (hcs ▸ hprefix)
    · rintro rfl
      cases h
  | @junk text hne hb h =>
    obtain rfl := Option.some.inj hl
    refine ⟨hne, hpart, hb, fun hk => (hk rfl).elim, fun text htext => ?_, fun _ i hi => ?_⟩
    · cases htext
    · have hafter : text.drop i ≠ [] := fun hnil => (List.drop_eq_nil_iff.mp hnil).not_gt hi
      have hunspelled := h _ _ (List.take_append_drop i _).symm hafter
      rwa [← List.drop_append_of_le_length hi.le, ← hcs, List.drop_drop] at hunspelled

lemma drop_add_length (hcs : cs.drop start = p.text ++ rest) :
    cs.drop (start + p.text.length) = rest := by
  rw [← List.drop_drop, hcs, List.drop_left]

lemma Laid.cutAt (h : Laid ps rest) (hcs : cs.drop start = rest) :
    ∀ a ∈ places start ps, CutAt cs a.1 a.2 := by
  induction h generalizing start with
  | nil => exact fun a ha => (List.not_mem_nil ha).elim
  | cons hp _ ih =>
    intro a ha
    rcases List.mem_append.mp ha with ha | ha
    · obtain ⟨l, hl, rfl⟩ := List.mem_map.mp ha
      exact hp.cutAt (Option.mem_toList.mp hl) hcs
    · exact ih (drop_add_length hcs) a ha

lemma Laid.head_places (h : Laid ps rest) (hcs : cs.drop start = rest) {a : ℕ × Lexeme}
    (ha : a ∈ (places start ps).head?) : start ≤ a.1 ∧
      (∀ c ∈ cs.extract start a.1, isBlank c = true) ∧
      (a.1 = start → ∃ p ∈ ps.head?, p.kind = some a.2.kind) := by
  induction h generalizing start with
  | nil => cases ha
  | @cons p ps rest hp h ih =>
    rw [places] at ha
    cases hl : ofPiece? p with
    | some l =>
      rw [hl] at ha
      obtain rfl : (start, l) = a := Option.some.inj ha
      obtain ⟨kind, hkind, rfl⟩ := Option.map_eq_some_iff.mp hl
      exact ⟨le_rfl, by simp [List.extract], fun _ => ⟨p, rfl, hkind⟩⟩
    | none =>
      rw [hl] at ha
      obtain ⟨hle, hblank, -⟩ := ih (drop_add_length hcs) ha
      have hpos : 0 < p.text.length := List.length_pos_iff.mpr hp.ne_nil
      refine ⟨by omega, fun c hc => ?_, by omega⟩
      have hafter := drop_add_length hcs
      rw [List.extract_eq_take_drop, hcs, List.take_append, List.mem_append] at hc
      rcases hc with hc | hc
      · cases hp with
        | blanks _ hb => exact hb c (List.mem_of_mem_take hc)
        | spelled => cases hl
        | junk => cases hl
      · apply hblank
        rwa [List.extract_eq_take_drop, hafter, Nat.sub_add_eq]

lemma Laid.isChain_places (h : Laid ps rest) (hps : ps.IsChain Apart) (hcs : cs.drop start = rest) :
    (places start ps).IsChain (Follows cs) := by
  induction h generalizing start with
  | nil => exact .nil
  | @cons p ps rest hp h ih =>
    have hafter := drop_add_length hcs
    have hchain := ih hps.tail hafter
    rw [places]
    cases hl : ofPiece? p with
    | none => exact hchain
    | some l =>
      obtain ⟨kind, hkind, rfl⟩ := Option.map_eq_some_iff.mp hl
      refine List.isChain_cons.mpr ⟨fun b hb => ?_, hchain⟩
      obtain ⟨hle, hblank, hstart⟩ := h.head_places hafter hb
      refine ⟨hle, hblank, fun hjunk hjunk' => hle.lt_of_ne fun heq => ?_⟩
      obtain ⟨q, hq, hqkind⟩ := hstart heq.symm
      apply hps.rel_head? hq
      rw [hkind, hqkind]
      exact ⟨congrArg some hjunk, congrArg some hjunk'⟩

lemma Laid.flatMap_text (h : Laid ps rest) :
    (ps.filterMap ofPiece?).flatMap Lexeme.text = rest.filter fun c => !isBlank c := by
  induction h with
  | nil => rfl
  | @cons p ps rest hp h ih =>
    rw [List.filter_append, ← ih]
    cases hp with
    | @blanks text _ hb =>
      have hnone : text.filter (fun c => !isBlank c) = [] :=
        List.filter_eq_nil_iff.mpr fun c hc => by simp [hb c hc]
      rw [hnone]
      rfl
    | spelled h =>
      rw [List.filter_eq_self.mpr fun c hc => by simp [h.not_isBlank c hc]]
      rfl
    | junk _ hb =>
      rw [List.filter_eq_self.mpr fun c hc => by simp [hb c hc]]
      rfl

lemma length_le_flatMap_text {ls : List Lexeme} (h : ∀ l ∈ ls, l.text ≠ []) :
    ls.length ≤ (ls.flatMap Lexeme.text).length := by
  induction ls with
  | nil => exact le_rfl
  | cons l ls ih =>
    obtain ⟨hl, hls⟩ := List.forall_mem_cons.mp h
    have hpos := List.length_pos_iff.mpr hl
    have hle := ih hls
    rw [List.flatMap_cons, List.length_append, List.length_cons]
    omega

end Places

end Lexeme

theorem tokenize_lossless (s : String) :
    (tokenize s).flatMap Lexeme.text = s.toList.filter (fun c => !Text.isBlank c) ∧
    (tokenize s).length ≤ s.length ∧
    ∃ placed : List (ℕ × Lexeme), placed.map Prod.snd = tokenize s ∧
      (∀ a ∈ placed, Lexeme.CutAt s.toList a.1 a.2) ∧
      placed.IsChain (Lexeme.Follows s.toList) := by
  have hlaid := (Lexeme.laid_pieces s.toList).foldr_join
  have hcut : ∀ a ∈ Lexeme.places 0 _, Lexeme.CutAt s.toList a.1 a.2 := hlaid.cutAt rfl
  have htext : (tokenize s).flatMap Lexeme.text = _ := hlaid.flatMap_text
  have hplaced := Lexeme.map_snd_places 0 ((Lexeme.pieces s.toList).foldr Lexeme.join [])
  have hne : ∀ l ∈ tokenize s, l.text ≠ [] := by
    intro l hl
    rw [tokenize, Lexeme.scan, ← hplaced] at hl
    obtain ⟨a, ha, rfl⟩ := List.mem_map.mp hl
    exact (hcut a ha).ne_nil
  refine ⟨htext, ?_, _, hplaced, hcut, hlaid.isChain_places (Lexeme.isChain_foldr_join _) rfl⟩
  calc (tokenize s).length ≤ ((tokenize s).flatMap Lexeme.text).length :=
        Lexeme.length_le_flatMap_text hne
    _ ≤ s.toList.length := by
        rw [htext]
        exact List.length_filter_le _ _
    _ = s.length := String.length_toList

end Spreadsheet
