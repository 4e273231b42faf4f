import Spreadsheet.Formula.Operator
import Spreadsheet.Text.Blank

/-!
Cutting text into lexemes. The text is first cut into pieces, each the longest one of its kind that
begins there, so that the pieces one after the other are the text again; the lexemes are the pieces
other than the runs of blanks.
-/

namespace Spreadsheet

inductive Lexeme.Kind where
  | leftParen
  | rightParen
  | operator (op : Operator)
  | variable
  | number
  | invalid
  deriving DecidableEq, Repr

structure Lexeme where
  kind : Lexeme.Kind
  text : List Char
  deriving DecidableEq, Repr

structure Piece where
  kind : Option Lexeme.Kind
  text : List Char
  deriving DecidableEq, Repr

namespace Lexeme

open Text

def splitSign : List Char → List Char × List Char
  | '+' :: cs => (['+'], cs)
  | '-' :: cs => (['-'], cs)
  | cs => ([], cs)

def splitExponent : List Char → List Char × List Char
  | 'e' :: cs =>
    let (sign, rest) := splitSign cs
    let digits := rest.takeWhile Char.isDigit
    if digits = [] then ([], 'e' :: cs) else ('e' :: sign ++ digits, rest.dropWhile Char.isDigit)
  | cs => ([], cs)

def splitMantissa (cs : List Char) : List Char × List Char :=
  let whole := cs.takeWhile Char.isDigit
  match cs.dropWhile Char.isDigit with
  | '.' :: rest => (whole ++ '.' :: rest.takeWhile Char.isDigit, rest.dropWhile Char.isDigit)
  | rest => (whole, rest)

def cutNumber (cs : List Char) : Piece × List Char :=
  let (mantissa, rest) := splitMantissa cs
  let (exponent, rest) := splitExponent rest
  (⟨some .number, mantissa ++ exponent⟩, rest)

def cutWord (cs : List Char) : Piece × List Char :=
  let letters := cs.takeWhile Char.isAlpha
  let rest := cs.dropWhile Char.isAlpha
  let digits := rest.takeWhile Char.isDigit
  if digits = [] then (⟨some .invalid, letters⟩, rest)
  else (⟨some .variable, letters ++ digits⟩, rest.dropWhile Char.isDigit)

def cutBlanks (cs : List Char) : Piece × List Char :=
  (⟨none, cs.takeWhile isBlank⟩, cs.dropWhile isBlank)

def startsNumber (c : Char) (cs : List Char) : Bool :=
  c.isDigit || c == '.' && cs.head?.any Char.isDigit

def cut (c : Char) (cs : List Char) : Piece × List Char :=
  if c = '(' then (⟨some .leftParen, [c]⟩, cs)
  else if c = ')' then (⟨some .rightParen, [c]⟩, cs)
  else
    match Operator.ofSymbol? c with
    | some op => (⟨some (.operator op), [c]⟩, cs)
    | none =>
      if c.isAlpha then cutWord (c :: cs)
      else if startsNumber c cs then cutNumber (c :: cs)
      else if isBlank c then cutBlanks (c :: cs)
      else (⟨some .invalid, [c]⟩, cs)

theorem splitSign_append (cs : List Char) : (splitSign cs).1 ++ (splitSign cs).2 = cs := by
  unfold splitSign
  split <;> rfl

theorem splitExponent_append (cs : List Char) :
    (splitExponent cs).1 ++ (splitExponent cs).2 = cs := by
  unfold splitExponent
  split
  · rename_i cs
    have h := splitSign_append cs
    dsimp only
    split
    · rfl
    · simp only [List.cons_append, List.append_assoc, List.takeWhile_append_dropWhile, h]
  · rfl

theorem splitMantissa_append (cs : List Char) :
    (splitMantissa cs).1 ++ (splitMantissa cs).2 = cs := by
  have h := List.takeWhile_append_dropWhile (p := Char.isDigit) (l := cs)
  unfold splitMantissa
  dsimp only
  split
  · rename_i rest e
    rw [e] at h
    simp only [List.append_assoc, List.cons_append, List.takeWhile_append_dropWhile, h]
  · rename_i rest e
    exact h

theorem cutNumber_append (cs : List Char) :
    (cutNumber cs).1.text ++ (cutNumber cs).2 = cs := by
  simp only [cutNumber, List.append_assoc, splitExponent_append, splitMantissa_append]

theorem cutWord_append (cs : List Char) : (cutWord cs).1.text ++ (cutWord cs).2 = cs := by
  unfold cutWord
  dsimp only
  split <;> simp only [List.append_assoc, List.takeWhile_append_dropWhile]

theorem cutBlanks_append (cs : List Char) : (cutBlanks cs).1.text ++ (cutBlanks cs).2 = cs :=
  List.takeWhile_append_dropWhile

theorem cut_append (c : Char) (cs : List Char) : (cut c cs).1.text ++ (cut c cs).2 = c :: cs := by
  unfold cut
  split
  · rfl
  split
  · rfl
  split
  · rfl
  split
  · exact cutWord_append _
  split
  · exact cutNumber_append _
  split
  · exact cutBlanks_append _
  · rfl

theorem cutNumber_text_ne_nil (c : Char) (cs : List Char) (h : startsNumber c cs = true) :
    (cutNumber (c :: cs)).1.text ≠ [] := by
  simp only [startsNumber, Bool.or_eq_true, Bool.and_eq_true, beq_iff_eq] at h
  by_cases hc : c.isDigit
  · simp only [cutNumber, splitMantissa, List.takeWhile_cons, List.dropWhile_cons, hc, if_true]
    split <;> simp
  · obtain h | ⟨rfl, -⟩ := h
    · exact absurd h hc
    · simp [cutNumber, splitMantissa, hc]

theorem cut_text_ne_nil (c : Char) (cs : List Char) : (cut c cs).1.text ≠ [] := by
  unfold cut
  split
  · simp
  split
  · simp
  split
  · simp
  split
  · rename_i h
    unfold cutWord
    dsimp only
    split <;> simp [h]
  split
  · rename_i h
    exact cutNumber_text_ne_nil c cs h
  split
  · rename_i h
    simp [cutBlanks, h]
  · simp

theorem cut_rest_length (c : Char) (cs : List Char) : (cut c cs).2.length ≤ cs.length := by
  have h := congrArg List.length (cut_append c cs)
  have := List.length_pos_iff.mpr (cut_text_ne_nil c cs)
  simp only [List.length_append, List.length_cons] at h
  omega

def pieces : List Char → List Piece
  | [] => []
  | c :: cs => (cut c cs).1 :: pieces (cut c cs).2
  termination_by cs => cs.length
  decreasing_by
    have := cut_rest_length c cs
    simp only [List.length_cons]
    omega

def join (p : Piece) : List Piece → List Piece
  | [] => [p]
  | q :: ps =>
    if p.kind = some .invalid ∧ q.kind = some .invalid then ⟨p.kind, p.text ++ q.text⟩ :: ps
    else p :: q :: ps

def ofPiece? (p : Piece) : Option Lexeme := p.kind.map fun kind => ⟨kind, p.text⟩

def scan (cs : List Char) : List Lexeme := ((pieces cs).foldr join []).filterMap ofPiece?

end Lexeme

def tokenize (s : String) : List Lexeme := Lexeme.scan s.toList

def isVariableText (cs : List Char) : Bool :=
  let digits := cs.dropWhile Char.isAlpha
  cs.head?.any Char.isAlpha && digits.head?.any Char.isDigit && digits.all Char.isDigit

def isVariable (s : String) : Bool := isVariableText s.toList

end Spreadsheet
