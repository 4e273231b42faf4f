import Spreadsheet.Markup.Event

namespace Spreadsheet.Markup

inductive AttributeFault where
  | missingEquals
  | missingValue
  | unquotedValue
  | unclosedValue
  deriving DecidableEq, Repr

def AttributeFault.message : AttributeFault → String
  | missingEquals => "an attribute has no `=`"
  | missingValue => "an attribute has no value"
  | unquotedValue => "an attribute value is not quoted"
  | unclosedValue => "an attribute value is not closed"

structure Attribute where
  key : List Char
  raw : List Char
  deriving DecidableEq, Repr

def isQuote (c : Char) : Bool := c == '"' || c == '\''

def readValue (key cs : List Char) : Except AttributeFault (Attribute × List Char) :=
  match cs.dropWhile isSpace with
  | '=' :: cs =>
    match cs.dropWhile isSpace with
    | q :: cs =>
      if isQuote q then
        match splitAtMark [q] cs with
        | some (raw, rest) => .ok (⟨key, raw⟩, rest)
        | none => .error .unclosedValue
      else .error .unquotedValue
    | [] => .error .missingValue
  | _ => .error .missingEquals

def inKey (c : Char) : Bool := c != '=' && !isSpace c

def readAttribute (c : Char) (cs : List Char) : Except AttributeFault (Attribute × List Char) :=
  readValue (c :: cs.takeWhile inKey) (cs.dropWhile inKey)

theorem readValue_length {key cs : List Char} {r : Attribute × List Char}
    (h : readValue key cs = .ok r) : r.2.length ≤ cs.length := by
  have hdrop (l : List Char) : (l.dropWhile isSpace).length ≤ l.length :=
    (List.dropWhile_sublist _).length_le
  unfold readValue at h
  split at h
  · rename_i rest he
    split at h
    · rename_i q tail hq
      split at h
      · split at h
        · rename_i raw last hm
          obtain rfl := Except.ok.inj h
          have h1 := hdrop cs
          have h2 := hdrop rest
          have h3 := splitAtMark_length hm
          rw [he] at h1
          rw [hq] at h2
          simp only [List.length_cons] at h1 h2
          dsimp only at h3 ⊢
          omega
        · exact absurd h (by simp)
      · exact absurd h (by simp)
    · exact absurd h (by simp)
  · exact absurd h (by simp)

theorem readAttribute_length {c : Char} {cs : List Char} {r : Attribute × List Char}
    (h : readAttribute c cs = .ok r) : r.2.length ≤ cs.length :=
  Nat.le_trans (readValue_length h) (List.dropWhile_sublist _).length_le

def findAttribute (key : List Char) (cs : List Char) : Except AttributeFault (Option Attribute) :=
  match _h : cs.dropWhile isSpace with
  | [] => .ok none
  | c :: rest =>
    match _hr : readAttribute c rest with
    | .error e => .error e
    | .ok (found, rest) =>
      if found.key = key then .ok (some found) else findAttribute key rest
  termination_by cs.length
  decreasing_by
    have h1 := readAttribute_length _hr
    have h2 : (cs.dropWhile isSpace).length ≤ cs.length := (List.dropWhile_sublist _).length_le
    rw [_h] at h2
    simp only [List.length_cons] at h2
    dsimp only at h1
    omega

end Spreadsheet.Markup
