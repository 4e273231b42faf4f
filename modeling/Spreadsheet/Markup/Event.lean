/-!
Markup as a sequence of events. Reading stops at the first place where the text is no markup, and
gives the events before it.
-/

namespace Spreadsheet.Markup

inductive MarkupFault where
  | unclosed
  | unknownDeclaration
  | unmatchedEnd (name : String)
  | mismatchedEnd (expected found : String)
  deriving DecidableEq, Repr

def MarkupFault.message : MarkupFault → String
  | unclosed => "markup is not closed"
  | unknownDeclaration => "unknown declaration"
  | unmatchedEnd name => "no element is open at </" ++ name ++ ">"
  | mismatchedEnd expected found => "expected </" ++ expected ++ ">, found </" ++ found ++ ">"

inductive Event where
  | opening (name : String) (attributes : List Char)
  | empty (name : String) (attributes : List Char)
  | closing (name : String)
  | text (raw : List Char)
  | characterData (raw : List Char)
  | aside
  deriving DecidableEq, Repr

def isSpace (c : Char) : Bool := c == ' ' || c == '\t' || c == '\r' || c == '\n'

def after? (mark cs : List Char) : Option (List Char) :=
  if mark.isPrefixOf cs then some (cs.drop mark.length) else none

def consFirst (c : Char) (r : List Char × List Char) : List Char × List Char := (c :: r.1, r.2)

def splitAtMark (mark : List Char) : List Char → Option (List Char × List Char)
  | [] => none
  | c :: cs =>
    if mark.isPrefixOf (c :: cs) then some ([], (c :: cs).drop mark.length)
    else (splitAtMark mark cs).map (consFirst c)

def splitTag (quote : Option Char) : List Char → Option (List Char × List Char)
  | [] => none
  | c :: cs =>
    match quote with
    | some q => (splitTag (if c = q then none else some q) cs).map (consFirst c)
    | none =>
      if c = '>' then some ([], cs)
      else (splitTag (if c = '"' ∨ c = '\'' then some c else none) cs).map (consFirst c)

def splitBalanced (depth : Nat) : List Char → Option (List Char × List Char)
  | [] => none
  | c :: cs =>
    if c = '>' then
      match depth with
      | 0 => some ([], cs)
      | depth + 1 => (splitBalanced depth cs).map (consFirst c)
    else (splitBalanced (if c = '<' then depth + 1 else depth) cs).map (consFirst c)

def isDoctype (cs : List Char) : Bool :=
  (after? "doctype".toList (cs.map Char.toLower)).any fun rest => !rest.all isSpace

abbrev Reading := Except MarkupFault (Event × List Char)

def closedBy (split : Option (List Char × List Char)) (f : List Char → Event) : Reading :=
  match split with
  | some (content, rest) => .ok (f content, rest)
  | none => .error .unclosed

def readDeclaration (cs : List Char) : Reading :=
  match after? "--".toList cs with
  | some comment => closedBy (splitAtMark "-->".toList comment) fun _ => .aside
  | none =>
    match after? "[CDATA[".toList cs with
    | some data => closedBy (splitAtMark "]]>".toList data) .characterData
    | none =>
      match splitBalanced 0 cs with
      | some (content, rest) =>
        if isDoctype content then .ok (.aside, rest) else .error .unknownDeclaration
      | none => .error .unknownDeclaration

def readInstruction : List Char → Reading
  | '>' :: _ => .error .unclosed
  | cs => closedBy (splitAtMark "?>".toList cs) fun _ => .aside

def nameOf (content : List Char) : String := String.ofList (content.takeWhile fun c => !isSpace c)

def attributesOf (content : List Char) : List Char := content.dropWhile fun c => !isSpace c

def openingTag (content : List Char) : Event :=
  if content.getLast? = some '/' then
    .empty (nameOf content.dropLast) (attributesOf content.dropLast)
  else .opening (nameOf content) (attributesOf content)

def closingTag (content : List Char) : Event :=
  .closing (String.ofList (content.reverse.dropWhile isSpace).reverse)

def readEvent (c : Char) (cs : List Char) : Reading :=
  if c = '<' then
    match cs with
    | '!' :: cs => readDeclaration cs
    | '?' :: cs => readInstruction cs
    | '/' :: cs => closedBy (splitTag none cs) closingTag
    | cs => closedBy (splitTag none cs) openingTag
  else .ok (.text ((c :: cs).takeWhile (· ≠ '<')), cs.dropWhile (· ≠ '<'))

theorem after?_length {mark cs rest : List Char} (h : after? mark cs = some rest) :
    rest.length ≤ cs.length := by
  unfold after? at h
  split at h
  · obtain rfl := Option.some.inj h
    simp only [List.length_drop]
    omega
  · exact absurd h (by simp)

theorem splitAtMark_length {mark cs : List Char} {r : List Char × List Char}
    (h : splitAtMark mark cs = some r) : r.2.length ≤ cs.length := by
  induction cs generalizing r with
  | nil => exact absurd h (by simp [splitAtMark])
  | cons c cs ih =>
    rw [splitAtMark] at h
    split at h
    · obtain rfl := Option.some.inj h
      simp only [List.length_drop]
      omega
    · obtain ⟨s, hs, rfl⟩ := Option.map_eq_some_iff.mp h
      exact Nat.le_succ_of_le (show s.2.length ≤ _ from ih hs)

theorem splitTag_length {quote : Option Char} {cs : List Char} {r : List Char × List Char}
    (h : splitTag quote cs = some r) : r.2.length ≤ cs.length := by
  induction cs generalizing quote r with
  | nil => exact absurd h (by simp [splitTag])
  | cons c cs ih =>
    rw [splitTag.eq_def] at h
    dsimp only at h
    split at h
    · obtain ⟨s, hs, rfl⟩ := Option.map_eq_some_iff.mp h
      exact Nat.le_succ_of_le (show s.2.length ≤ _ from ih hs)
    · split at h
      · obtain rfl := Option.some.inj h
        exact Nat.le_succ _
      · obtain ⟨s, hs, rfl⟩ := Option.map_eq_some_iff.mp h
        exact Nat.le_succ_of_le (show s.2.length ≤ _ from ih hs)

theorem splitBalanced_length {depth : Nat} {cs : List Char} {r : List Char × List Char}
    (h : splitBalanced depth cs = some r) : r.2.length ≤ cs.length := by
  induction cs generalizing depth r with
  | nil => exact absurd h (by simp [splitBalanced])
  | cons c cs ih =>
    rw [splitBalanced.eq_def] at h
    dsimp only at h
    split at h
    · split at h
      · obtain rfl := Option.some.inj h
        exact Nat.le_succ _
      · obtain ⟨s, hs, rfl⟩ := Option.map_eq_some_iff.mp h
        exact Nat.le_succ_of_le (show s.2.length ≤ _ from ih hs)
    · obtain ⟨s, hs, rfl⟩ := Option.map_eq_some_iff.mp h
      exact Nat.le_succ_of_le (show s.2.length ≤ _ from ih hs)

theorem closedBy_length {split : Option (List Char × List Char)} {f : List Char → Event}
    {r : Event × List Char} {n : Nat} (hs : ∀ s, split = some s → s.2.length ≤ n)
    (h : closedBy split f = .ok r) : r.2.length ≤ n := by
  unfold closedBy at h
  split at h
  · obtain rfl := Except.ok.inj h
    exact hs _ rfl
  · exact absurd h (by simp)

theorem readDeclaration_length {cs : List Char} {r : Event × List Char}
    (h : readDeclaration cs = .ok r) : r.2.length ≤ cs.length := by
  unfold readDeclaration at h
  split at h
  · rename_i comment hc
    exact closedBy_length
      (fun s hs => Nat.le_trans (splitAtMark_length hs) (after?_length hc)) h
  split at h
  · rename_i data hd
    exact closedBy_length
      (fun s hs => Nat.le_trans (splitAtMark_length hs) (after?_length hd)) h
  split at h
  · rename_i content rest hs
    split at h
    · obtain rfl := Except.ok.inj h
      exact splitBalanced_length hs
    · exact absurd h (by simp)
  · exact absurd h (by simp)

theorem readInstruction_length {cs : List Char} {r : Event × List Char}
    (h : readInstruction cs = .ok r) : r.2.length ≤ cs.length := by
  unfold readInstruction at h
  split at h
  · exact absurd h (by simp)
  · exact closedBy_length (fun s hs => splitAtMark_length hs) h

theorem readEvent_length {c : Char} {cs : List Char} {r : Event × List Char}
    (h : readEvent c cs = .ok r) : r.2.length ≤ cs.length := by
  unfold readEvent at h
  split at h
  · split at h
    · exact Nat.le_succ_of_le (readDeclaration_length h)
    · exact Nat.le_succ_of_le (readInstruction_length h)
    · exact Nat.le_succ_of_le (closedBy_length (fun s hs => splitTag_length hs) h)
    · exact closedBy_length (fun s hs => splitTag_length hs) h
  · obtain rfl := Except.ok.inj h
    exact (List.dropWhile_sublist _).length_le

def nest (opened : List String) : Event → Except MarkupFault (List String)
  | .opening name _ => .ok (name :: opened)
  | .closing name =>
    match opened with
    | [] => .error (.unmatchedEnd name)
    | expected :: opened =>
      if name = expected then .ok opened else .error (.mismatchedEnd expected name)
  | _ => .ok opened

structure Stop where
  fault : MarkupFault
  rest : List Char

def readAll (opened : List String) : List Char → List Event × Option Stop
  | [] => ([], none)
  | c :: cs =>
    match _h : readEvent c cs with
    | .error e => ([], some ⟨e, c :: cs⟩)
    | .ok (event, rest) =>
      match nest opened event with
      | .error e => ([], some ⟨e, c :: cs⟩)
      | .ok opened =>
        let (events, stop) := readAll opened rest
        (event :: events, stop)
  termination_by cs => cs.length
  decreasing_by exact Nat.lt_succ_of_le (readEvent_length _h)

def withoutMark : List Char → List Char
  | '\uFEFF' :: cs => cs
  | cs => cs

def events (cs : List Char) : List Event × Option Stop := readAll [] (withoutMark cs)

end Spreadsheet.Markup
