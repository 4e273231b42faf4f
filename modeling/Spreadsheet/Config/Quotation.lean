import Spreadsheet.Text.Digits

namespace Spreadsheet.Config

def isSpace (c : Char) : Bool := c == ' ' || c == '\t'

def isControl (c : Char) : Bool := (c.toNat < 0x20 && c != '\t') || c.toNat == 0x7F

namespace Quotation

def isMark (c : Char) : Bool := c == '"' || c == '\''

def hasEscapes (mark : Char) : Bool := mark == '"'

abbrev Split := List Char × List Char

def consFirst (c : Char) (r : Split) : Split := (c :: r.1, r.2)

def splitLine (mark : Char) (escaped : Bool) : List Char → Option Split
  | [] => none
  | c :: cs =>
    if escaped then (splitLine mark false cs).map (consFirst c)
    else if c = mark then some ([], cs)
    else (splitLine mark (hasEscapes mark && c == '\\') cs).map (consFirst c)

/-- Cuts at the first three marks that are not escaped. Of the marks that follow them at once, two
are counted to the text. -/
def splitBlock (mark : Char) (escaped : Bool) : List Char → Option Split
  | [] => none
  | c :: cs =>
    if escaped then (splitBlock mark false cs).map (consFirst c)
    else if c = mark ∧ cs.take 2 = [mark, mark] then
      let more := ((cs.drop 2).takeWhile (· == mark)).take 2
      some (more, (cs.drop 2).drop more.length)
    else (splitBlock mark (hasEscapes mark && c == '\\') cs).map (consFirst c)

inductive Escape where
  | outside
  | backslash
  | fold (broken : Bool)
  | code (missing value : Nat)

def simpleEscape? (c : Char) : Option Char :=
  match c with
  | 'b' => some '\x08'
  | 't' => some '\t'
  | 'n' => some '\n'
  | 'f' => some '\x0c'
  | 'r' => some '\r'
  | '"' => some '"'
  | '\\' => some '\\'
  | _ => none

namespace Escape

def start (c : Char) : Escape × Option Char :=
  if c = '\\' then (.backslash, none) else (.outside, some c)

def step (escape : Escape) (c : Char) : Option (Escape × Option Char) :=
  match escape with
  | .outside => some (start c)
  | .backslash =>
    if c = 'u' then some (.code 4 0, none)
    else if c = 'U' then some (.code 8 0, none)
    else if c = '\n' then some (.fold true, none)
    else if isSpace c then some (.fold false, none)
    else (simpleEscape? c).map fun d => (.outside, some d)
  | .fold broken =>
    if c = '\n' then some (.fold true, none)
    else if isSpace c then some (.fold broken, none)
    else if broken then some (start c)
    else none
  | .code missing value =>
    (Text.pushDigit? 16 value c).bind fun value =>
      if 1 < missing then some (.code (missing - 1) value, none)
      else (Text.charOfCode? value).map fun d => (.outside, some d)

def isSettled : Escape → Bool
  | .outside | .fold true => true
  | _ => false

end Escape

def unescape (escape : Escape) : List Char → Option (List Char)
  | [] => if escape.isSettled then some [] else none
  | c :: cs => do
    let (next, added) ← escape.step c
    (unescape next cs).map (added.toList ++ ·)

def decode (mark : Char) (raw : List Char) : Option (List Char) :=
  if hasEscapes mark then unescape .outside raw else some raw

def readLine (mark : Char) (cs : List Char) : Option Split := do
  let (raw, rest) ← splitLine mark false cs
  if raw.any isControl then none else (decode mark raw).map fun text => (text, rest)

def dropLineEnd : List Char → List Char
  | '\n' :: cs => cs
  | cs => cs

def readBlock (mark : Char) (cs : List Char) : Option Split := do
  let (raw, rest) ← splitBlock mark false (dropLineEnd cs)
  if raw.any fun c => isControl c && c != '\n' then none
  else (decode mark raw).map fun text => (text, rest)

def read (mark : Char) (cs : List Char) : Option Split :=
  if cs.take 2 = [mark, mark] then readBlock mark (cs.drop 2) else readLine mark cs

end Quotation

end Spreadsheet.Config
