import Spreadsheet.Formula.Lexeme
import Spreadsheet.Proofs.Text.Span

namespace Spreadsheet.Lexeme

open Text

def IsFraction (cs : List Char) : Prop :=
  cs = [] ∨ ∃ ds, cs = '.' :: ds ∧ ∀ c ∈ ds, c.isDigit = true

def IsExponent (cs : List Char) : Prop :=
  cs = [] ∨ ∃ sign ds, cs = 'e' :: sign ++ ds ∧ (sign = [] ∨ sign = ['+'] ∨ sign = ['-']) ∧
    ds ≠ [] ∧ ∀ c ∈ ds, c.isDigit = true

inductive Spelled : Kind → List Char → Prop
  | leftParen : Spelled .leftParen ['(']
  | rightParen : Spelled .rightParen [')']
  | operator (op : Operator) : Spelled (.operator op) [op.symbol]
  | variable {letters digits : List Char} (hl : ∀ c ∈ letters, c.isAlpha = true)
    (hd : ∀ c ∈ digits, c.isDigit = true) (hl' : letters ≠ []) (hd' : digits ≠ []) :
    Spelled .variable (letters ++ digits)
  | number {whole fraction exponent : List Char} (hw : ∀ c ∈ whole, c.isDigit = true)
    (hf : IsFraction fraction) (he : IsExponent exponent)
    (hn : whole ≠ [] ∨ 1 < fraction.length) : Spelled .number (whole ++ (fraction ++ exponent))

def Kind.isOpen : Kind → Bool
  | .variable | .number => true
  | _ => false

def Ends (rest : List Char) : Prop :=
  ∀ c ∈ rest.head?, c.isDigit = false ∧ c ≠ '.' ∧ c ≠ 'e'

section Classes

variable {c : Char} {cs : List Char}

lemma isAlpha_of_isDigit (h : c.isDigit = true) : c.isAlpha = false := by
  have hc := toNat_of_isDigit h
  rw [Bool.eq_false_iff]
  intro ha
  have hc' := toNat_of_isAlpha ha
  omega

lemma ofSymbol?_eq_none (hadd : c ≠ '+') (hsub : c ≠ '-') (hmul : c ≠ '*') (hdiv : c ≠ '/') :
    Operator.ofSymbol? c = none := by
  simp only [Operator.ofSymbol?, hadd, hsub, hmul, hdiv, if_false]

lemma cut_word (h : c.isAlpha = true) : cut c cs = cutWord (c :: cs) := by
  rw [cut, if_neg (ne_of_class h rfl), if_neg (ne_of_class h rfl),
    ofSymbol?_eq_none (ne_of_class h rfl) (ne_of_class h rfl) (ne_of_class h rfl)
      (ne_of_class h rfl)]
  exact if_pos h

lemma cut_number (h : startsNumber c cs = true) : cut c cs = cutNumber (c :: cs) := by
  have hc : c.isDigit = true ∨ c = '.' := by
    simp only [startsNumber, Bool.or_eq_true, Bool.and_eq_true, beq_iff_eq] at h
    exact h.imp id And.left
  have hne {d : Char} (hd : d.isDigit = false) (hd' : d ≠ '.') : c ≠ d := by
    rcases hc with hc | rfl
    · exact ne_of_class hc hd
    · exact hd'.symm
  have halpha : c.isAlpha = false := by
    rcases hc with hc | rfl
    · exact isAlpha_of_isDigit hc
    · rfl
  rw [cut, if_neg (hne rfl (by decide)), if_neg (hne rfl (by decide)),
    ofSymbol?_eq_none (hne rfl (by decide)) (hne rfl (by decide)) (hne rfl (by decide))
      (hne rfl (by decide))]
  simp only [halpha, h, if_true, Bool.false_eq_true, if_false]

lemma Ends.stops {rest : List Char} (h : Ends rest) : Stops Char.isDigit rest :=
  fun c hc => (h c hc).1

end Classes

section Cut

variable {cs rest : List Char}

lemma splitSign_spelled {sign ds : List Char} (hsign : sign = [] ∨ sign = ['+'] ∨ sign = ['-'])
    (hne : ds ≠ []) (hds : ∀ c ∈ ds, c.isDigit = true) :
    splitSign (sign ++ (ds ++ rest)) = (sign, ds ++ rest) := by
  rcases hsign with rfl | rfl | rfl
  · obtain ⟨d, ds, rfl⟩ := List.exists_cons_of_ne_nil hne
    have hd := hds d List.mem_cons_self
    rw [List.nil_append, List.cons_append, splitSign]
    · rintro cs' hcs
      exact ne_of_class hd rfl (List.cons.inj hcs).1
    · rintro cs' hcs
      exact ne_of_class hd rfl (List.cons.inj hcs).1
  · rfl
  · rfl

lemma splitExponent_spelled (he : IsExponent cs) (hr : Ends rest) :
    splitExponent (cs ++ rest) = (cs, rest) := by
  rcases he with rfl | ⟨sign, ds, rfl, hsign, hne, hds⟩
  · cases rest with
    | nil => rfl
    | cons c rest =>
      have hc := (hr c rfl).2.2
      rw [List.nil_append, splitExponent]
      rintro cs' hcs
      exact hc (List.cons.inj hcs).1
  · rw [List.cons_append, List.cons_append, List.append_assoc, splitExponent,
      splitSign_spelled hsign hne hds]
    dsimp only
    rw [takeWhile_append hds hr.stops, if_neg hne, dropWhile_append hds hr.stops]
    rfl

lemma splitMantissa_spelled {whole fraction : List Char} (hw : ∀ c ∈ whole, c.isDigit = true)
    (hf : IsFraction fraction) (hr : Stops Char.isDigit rest) (hr' : rest.head? ≠ some '.') :
    splitMantissa (whole ++ (fraction ++ rest)) = (whole ++ fraction, rest) := by
  rcases hf with rfl | ⟨ds, rfl, hds⟩
  · rw [List.nil_append, splitMantissa, takeWhile_append hw hr, dropWhile_append hw hr,
      List.append_nil]
    split
    · exact (hr' rfl).elim
    · rfl
  · have hpoint : Stops Char.isDigit ('.' :: ds ++ rest) := stops_cons.mpr rfl
    rw [splitMantissa, takeWhile_append hw hpoint, dropWhile_append hw hpoint, List.cons_append]
    simp only [takeWhile_append hds hr, dropWhile_append hds hr]

lemma cutNumber_spelled {whole fraction exponent : List Char}
    (hw : ∀ c ∈ whole, c.isDigit = true) (hf : IsFraction fraction) (he : IsExponent exponent)
    (hr : Ends rest) : cutNumber (whole ++ (fraction ++ exponent) ++ rest) =
      (⟨some .number, whole ++ (fraction ++ exponent)⟩, rest) := by
  have hhead : ∀ c ∈ (exponent ++ rest).head?, c.isDigit = false ∧ c ≠ '.' := by
    rcases he with rfl | ⟨sign, ds, rfl, -⟩
    · exact fun c hc => ⟨(hr c hc).1, (hr c hc).2.1⟩
    · intro c hc
      obtain rfl : 'e' = c := Option.some.inj hc
      exact ⟨rfl, by decide⟩
  have hmantissa : splitMantissa (whole ++ (fraction ++ (exponent ++ rest))) =
      (whole ++ fraction, exponent ++ rest) :=
    splitMantissa_spelled hw hf (fun c hc => (hhead c hc).1) fun hc => (hhead '.' hc).2 rfl
  rw [List.append_assoc, List.append_assoc, cutNumber, hmantissa]
  dsimp only
  rw [splitExponent_spelled he hr]
  simp only [List.append_assoc]

lemma cutWord_spelled {letters digits : List Char} (hl : ∀ c ∈ letters, c.isAlpha = true)
    (hd : ∀ c ∈ digits, c.isDigit = true) (hne : digits ≠ []) (hr : Ends rest) :
    cutWord (letters ++ digits ++ rest) = (⟨some .variable, letters ++ digits⟩, rest) := by
  have hstop : Stops Char.isAlpha (digits ++ rest) := by
    obtain ⟨d, ds, rfl⟩ := List.exists_cons_of_ne_nil hne
    exact stops_cons.mpr (isAlpha_of_isDigit (hd d List.mem_cons_self))
  rw [List.append_assoc, cutWord, takeWhile_append hl hstop, dropWhile_append hl hstop]
  rw [takeWhile_append hd hr.stops, if_neg hne, dropWhile_append hd hr.stops]

lemma startsNumber_spelled {whole fraction exponent : List Char} {c : Char}
    (hw : ∀ c ∈ whole, c.isDigit = true) (hf : IsFraction fraction)
    (hn : whole ≠ [] ∨ 1 < fraction.length) (hcs : c :: cs = whole ++ (fraction ++ exponent)) :
    startsNumber c (cs ++ rest) = true := by
  rw [startsNumber, Bool.or_eq_true]
  cases whole with
  | cons w whole =>
    left
    rw [(List.cons.inj hcs).1]
    exact hw w List.mem_cons_self
  | nil =>
    right
    rcases hf with rfl | ⟨ds, rfl, hds⟩
    · exact (hn.resolve_left (fun h => h rfl)).not_ge (Nat.zero_le 1) |>.elim
    · cases ds with
      | nil => exact absurd (hn.resolve_left fun h => h rfl) (lt_irrefl 1)
      | cons d ds =>
        obtain ⟨rfl, rfl⟩ := List.cons.inj hcs
        exact hds d List.mem_cons_self

lemma Spelled.ne_nil {kind : Kind} (h : Spelled kind cs) : cs ≠ [] := by
  cases h with
  | leftParen => exact List.cons_ne_nil _ _
  | rightParen => exact List.cons_ne_nil _ _
  | operator op => exact List.cons_ne_nil _ _
  | «variable» hl hd hl' hd' => exact List.append_ne_nil_of_left_ne_nil hl' _
  | @number whole fraction exponent hw hf he hn =>
    rcases hn with hn | hn
    · exact List.append_ne_nil_of_left_ne_nil hn _
    · refine List.append_ne_nil_of_right_ne_nil _ (List.append_ne_nil_of_left_ne_nil ?_ _)
      rintro rfl
      exact absurd hn (Nat.not_lt_zero 1)

lemma Spelled.not_isBlank {kind : Kind} (h : Spelled kind cs) : ∀ c ∈ cs, isBlank c = false := by
  have hdigits {ds : List Char} (hds : ∀ c ∈ ds, c.isDigit = true) :
      ∀ c ∈ ds, isBlank c = false := fun c hc => isBlank_of_isDigit (hds c hc)
  cases h with
  | leftParen => simp [isBlank]
  | rightParen => simp [isBlank]
  | operator op => cases op <;> simp [isBlank, Operator.symbol]
  | «variable» hl hd hl' hd' =>
    rw [List.forall_mem_append]
    exact ⟨fun c hc => isBlank_of_isAlpha (hl c hc), hdigits hd⟩
  | @number whole fraction exponent hw hf he hn =>
    rw [List.forall_mem_append, List.forall_mem_append]
    refine ⟨hdigits hw, ?_, ?_⟩
    · rcases hf with rfl | ⟨ds, rfl, hds⟩
      · exact fun c hc => (List.not_mem_nil hc).elim
      · exact List.forall_mem_cons.mpr ⟨rfl, hdigits hds⟩
    · rcases he with rfl | ⟨sign, ds, rfl, hsign, -, hds⟩
      · exact fun c hc => (List.not_mem_nil hc).elim
      · rw [List.forall_mem_append]
        refine ⟨List.forall_mem_cons.mpr ⟨rfl, ?_⟩, hdigits hds⟩
        rcases hsign with rfl | rfl | rfl <;> simp [isBlank]

lemma cut_spelled {kind : Kind} {c : Char} (h : Spelled kind (c :: cs))
    (hr : kind.isOpen = true → Ends rest) :
    cut c (cs ++ rest) = (⟨some kind, c :: cs⟩, rest) := by
  generalize hcs : c :: cs = text at h
  cases h with
  | leftParen =>
    obtain ⟨rfl, rfl⟩ := List.cons.inj hcs
    rfl
  | rightParen =>
    obtain ⟨rfl, rfl⟩ := List.cons.inj hcs
    rfl
  | operator op =>
    obtain ⟨rfl, rfl⟩ := List.cons.inj hcs
    cases op <;> rfl
  | @«variable» letters digits hl hd hl' hd' =>
    have hc : c.isAlpha = true := by
      obtain ⟨l, ls, rfl⟩ := List.exists_cons_of_ne_nil hl'
      rw [(List.cons.inj hcs).1]
      exact hl l List.mem_cons_self
    rw [cut_word hc, ← List.cons_append, hcs, cutWord_spelled hl hd hd' (hr rfl)]
  | @number whole fraction exponent hw hf he hn =>
    rw [cut_number (startsNumber_spelled hw hf hn hcs), ← List.cons_append, hcs,
      cutNumber_spelled hw hf he (hr rfl)]

lemma pieces_spelled {kind : Kind} (h : Spelled kind cs) (hr : kind.isOpen = true → Ends rest) :
    pieces (cs ++ rest) = ⟨some kind, cs⟩ :: pieces rest := by
  obtain ⟨c, cs, rfl⟩ := List.exists_cons_of_ne_nil h.ne_nil
  rw [List.cons_append, pieces, cut_spelled h hr]

lemma ends_of_isBlank {c : Char} (h : isBlank c = true) : Ends (c :: rest) := by
  intro d hd
  obtain rfl : c = d := Option.some.inj hd
  refine ⟨?_, ne_of_class h rfl, ne_of_class h rfl⟩
  rw [Bool.eq_false_iff]
  intro hdigit
  rw [isBlank_of_isDigit hdigit] at h
  cases h

lemma cut_blank {c : Char} (h : isBlank c = true) : cut c cs = cutBlanks (c :: cs) := by
  have halpha : c.isAlpha = false := by
    rw [Bool.eq_false_iff]
    intro ha
    rw [isBlank_of_isAlpha ha] at h
    cases h
  have hnumber : startsNumber c cs = false := by
    have hends : Ends (c :: cs) := ends_of_isBlank h
    obtain ⟨hdigit, hpoint, -⟩ := hends c rfl
    simp [startsNumber, hdigit, hpoint]
  rw [cut, if_neg (ne_of_class h rfl), if_neg (ne_of_class h rfl),
    ofSymbol?_eq_none (ne_of_class h rfl) (ne_of_class h rfl) (ne_of_class h rfl)
      (ne_of_class h rfl)]
  simp only [halpha, hnumber, h, if_true, Bool.false_eq_true, if_false]

lemma pieces_blanks (hne : cs ≠ []) (hcs : ∀ c ∈ cs, isBlank c = true)
    (hr : Stops isBlank rest) : pieces (cs ++ rest) = ⟨none, cs⟩ :: pieces rest := by
  obtain ⟨c, cs, rfl⟩ := List.exists_cons_of_ne_nil hne
  rw [List.cons_append, pieces, cut_blank (hcs c List.mem_cons_self), ← List.cons_append,
    cutBlanks, takeWhile_append hcs hr, dropWhile_append hcs hr]

end Cut

section Pieces

variable {c : Char} {cs : List Char}

lemma isExponent_splitExponent (cs : List Char) : IsExponent (splitExponent cs).1 := by
  rw [splitExponent.eq_def]
  split
  · rename_i cs
    dsimp only
    split
    · exact Or.inl rfl
    · rename_i hne
      refine Or.inr ⟨(splitSign cs).1, _, rfl, ?_, hne, fun c hc => List.mem_takeWhile_imp hc⟩
      rw [splitSign.eq_def]
      split
      · exact Or.inr (Or.inl rfl)
      · exact Or.inr (Or.inr rfl)
      · exact Or.inl rfl
  · exact Or.inl rfl

lemma exists_fraction_splitMantissa (cs : List Char) : ∃ fraction, IsFraction fraction ∧
    (splitMantissa cs).1 = cs.takeWhile Char.isDigit ++ fraction := by
  rw [splitMantissa.eq_def]
  dsimp only
  split
  · exact ⟨_, Or.inr ⟨_, rfl, fun c hc => List.mem_takeWhile_imp hc⟩, rfl⟩
  · exact ⟨[], Or.inl rfl, (List.append_nil _).symm⟩

lemma spelled_of_cutNumber (h : startsNumber c cs = true) :
    Spelled .number (cutNumber (c :: cs)).1.text := by
  rw [cutNumber]
  dsimp only
  have he := isExponent_splitExponent (splitMantissa (c :: cs)).2
  by_cases hc : c.isDigit = true
  · obtain ⟨fraction, hf, hmantissa⟩ := exists_fraction_splitMantissa (c :: cs)
    rw [hmantissa, List.append_assoc]
    refine .number (fun d hd => List.mem_takeWhile_imp hd) hf he (Or.inl ?_)
    rw [List.takeWhile_cons_of_pos hc]
    exact List.cons_ne_nil _ _
  · simp only [startsNumber, Bool.or_eq_true, Bool.and_eq_true, beq_iff_eq] at h
    obtain ⟨rfl, hhead⟩ := h.resolve_left hc
    cases cs with
    | nil => cases hhead
    | cons d ds =>
      have hd : d.isDigit = true := hhead
      have hmantissa : (splitMantissa ('.' :: d :: ds)).1 =
          '.' :: (d :: ds).takeWhile Char.isDigit := rfl
      rw [hmantissa]
      refine @Spelled.number [] _ _ (fun d hd => (List.not_mem_nil hd).elim)
        (Or.inr ⟨_, rfl, fun d hd => List.mem_takeWhile_imp hd⟩) he (Or.inr ?_)
      rw [List.takeWhile_cons_of_pos hd]
      exact Nat.succ_lt_succ (Nat.succ_pos _)

lemma spelled_of_cutWord {kind : Kind} (h : (cutWord cs).1.kind = some kind)
    (hk : kind ≠ .invalid) (hc : cs.takeWhile Char.isAlpha ≠ []) :
    Spelled kind (cutWord cs).1.text := by
  simp only [cutWord] at h ⊢
  split at h
  · exact (hk (Option.some.inj h).symm).elim
  · rename_i hd
    obtain rfl := Option.some.inj h
    rw [if_neg hd]
    exact .variable (fun d hd => List.mem_takeWhile_imp hd)
      (fun d hd => List.mem_takeWhile_imp hd) hc hd

lemma symbol_of_ofSymbol? {op : Operator} (h : Operator.ofSymbol? c = some op) :
    op.symbol = c := by
  rw [Operator.ofSymbol?] at h
  split_ifs at h with hc hc hc hc <;>
  · rw [hc, ← Option.some.inj h]
    rfl

lemma spelled_of_cut {kind : Kind} (h : (cut c cs).1.kind = some kind) (hk : kind ≠ .invalid) :
    Spelled kind (cut c cs).1.text := by
  by_cases hleft : c = '('
  · subst hleft
    obtain rfl : Kind.leftParen = kind := Option.some.inj h
    exact .leftParen
  by_cases hright : c = ')'
  · subst hright
    obtain rfl : Kind.rightParen = kind := Option.some.inj h
    exact .rightParen
  by_cases ha : c.isAlpha = true
  · rw [cut_word ha] at h ⊢
    apply spelled_of_cutWord h hk
    rw [List.takeWhile_cons_of_pos ha]
    exact List.cons_ne_nil _ _
  by_cases hs : startsNumber c cs = true
  · rw [cut_number hs] at h ⊢
    obtain rfl : Kind.number = kind := Option.some.inj h
    exact spelled_of_cutNumber hs
  rw [cut, if_neg hleft, if_neg hright, if_neg ha, if_neg hs] at h ⊢
  cases hop : Operator.ofSymbol? c with
  | some op =>
    rw [hop] at h
    obtain rfl : Kind.operator op = kind := Option.some.inj h
    rw [← symbol_of_ofSymbol? hop]
    exact .operator op
  | none =>
    rw [hop] at h
    dsimp only at h
    split at h
    · cases h
    · exact (hk (Option.some.inj h).symm).elim

lemma spelled_of_mem_pieces {p : Piece} (h : p ∈ pieces cs) {kind : Kind}
    (hp : p.kind = some kind) (hk : kind ≠ .invalid) : Spelled kind p.text := by
  induction cs using pieces.induct with
  | case1 =>
    rw [pieces] at h
    exact (List.not_mem_nil h).elim
  | case2 c cs ih =>
    rw [pieces] at h
    rcases List.mem_cons.mp h with rfl | h
    · exact spelled_of_cut hp hk
    · exact ih h

end Pieces

section Join

lemma mem_join {p q : Piece} {ps : List Piece} (h : q ∈ join p ps) :
    q ∈ p :: ps ∨ q.kind = some .invalid := by
  rw [join.eq_def] at h
  split at h
  · exact Or.inl h
  · split at h
    · rename_i hinvalid
      rcases List.mem_cons.mp h with rfl | h
      · exact Or.inr hinvalid.1
      · exact Or.inl (List.mem_cons_of_mem _ (List.mem_cons_of_mem _ h))
    · exact Or.inl h

lemma mem_foldr_join {q : Piece} {ps : List Piece} (h : q ∈ ps.foldr join [])
    (hk : q.kind ≠ some .invalid) : q ∈ ps := by
  induction ps with
  | nil => exact h
  | cons p ps ih =>
    rcases List.mem_cons.mp ((mem_join h).resolve_right hk) with rfl | h
    · exact List.mem_cons_self
    · exact List.mem_cons_of_mem p (ih h)

lemma foldr_join {ps : List Piece} (h : ∀ p ∈ ps, p.kind ≠ some .invalid) :
    ps.foldr join [] = ps := by
  induction ps with
  | nil => rfl
  | cons p ps ih =>
    rw [List.foldr_cons, ih fun q hq => h q (List.mem_cons_of_mem p hq)]
    cases ps with
    | nil => rfl
    | cons q ps => exact if_neg fun hinvalid => h p List.mem_cons_self hinvalid.1

lemma spelled_of_mem_scan {l : Lexeme} {cs : List Char} (h : l ∈ scan cs)
    (hk : l.kind ≠ .invalid) : Spelled l.kind l.text := by
  obtain ⟨p, hp, hl⟩ := List.mem_filterMap.mp h
  obtain ⟨kind, hkind, rfl⟩ := Option.map_eq_some_iff.mp hl
  refine spelled_of_mem_pieces (mem_foldr_join hp ?_) hkind hk
  rw [hkind]
  exact fun h => hk (Option.some.inj h)

structure Cuts (cs : List Char) (ls : List Lexeme) : Prop where
  valid : ∀ p ∈ pieces cs, p.kind ≠ some .invalid
  lexemes : (pieces cs).filterMap ofPiece? = ls

namespace Cuts

variable {cs rest : List Char} {ls : List Lexeme}

lemma nil : Cuts [] [] := by
  constructor <;> simp [pieces]

lemma scan_eq (h : Cuts cs ls) : scan cs = ls := by
  rw [scan, foldr_join h.valid, h.lexemes]

lemma blanks (h : Cuts rest ls) (hcs : ∀ c ∈ cs, isBlank c = true) (hr : Stops isBlank rest) :
    Cuts (cs ++ rest) ls := by
  by_cases hne : cs = []
  · rw [hne]
    exact h
  · have hpieces := pieces_blanks hne hcs hr
    constructor
    · rw [hpieces]
      exact List.forall_mem_cons.mpr ⟨by simp, h.valid⟩
    · rw [hpieces, List.filterMap_cons_none (f := ofPiece?) rfl, h.lexemes]

lemma spelled {kind : Kind} (h : Cuts rest ls) (hcs : Spelled kind cs)
    (hr : kind.isOpen = true → Ends rest) : Cuts (cs ++ rest) (⟨kind, cs⟩ :: ls) := by
  have hpieces := pieces_spelled hcs hr
  constructor
  · rw [hpieces]
    refine List.forall_mem_cons.mpr ⟨?_, h.valid⟩
    rintro ⟨⟩
    cases hcs
  · rw [hpieces, List.filterMap_cons_some (f := ofPiece?) rfl, h.lexemes]

end Cuts

end Join

end Spreadsheet.Lexeme
