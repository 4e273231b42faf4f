import Spreadsheet.Config.Quotation

/-!
Statements of a settings file, one to a line: a header that opens a table, or a path of keys and its
setting. Everything is read that a known setting can be made of; decimals, dates, lists with items
and tables with more than one entry are refused here, as no setting holds them.
-/

namespace Spreadsheet.Config

inductive Setting where
  | text (text : String)
  | integer (value : Int)
  | empty
  deriving DecidableEq, Repr

inductive Statement where
  | table (path : List String)
  | assign (path : List String) (setting : Setting)
  deriving DecidableEq, Repr

namespace Statement

def skipSpace (cs : List Char) : List Char := cs.dropWhile isSpace

def skipComment : List Char → List Char
  | '#' :: cs => cs.dropWhile fun c => !isControl c
  | cs => cs

def endLine (cs : List Char) : Option (List Char) :=
  match skipComment (skipSpace cs) with
  | [] => some []
  | '\n' :: cs => some cs
  | _ => none

def skipGap (inComment : Bool) : List Char → List Char
  | [] => []
  | c :: cs =>
    if c = '\n' then skipGap false cs
    else if inComment && !isControl c then skipGap true cs
    else if !inComment && c == '#' then skipGap true cs
    else if !inComment && isSpace c then skipGap false cs
    else c :: cs

def isKeyChar (c : Char) : Bool := c.isAlphanum || c == '-' || c == '_'

def readKey (cs : List Char) : Option (String × List Char) :=
  match cs with
  | [] => none
  | c :: rest =>
    if Quotation.isMark c then
      (Quotation.readLine c rest).map fun (key, rest) => (String.ofList key, rest)
    else if isKeyChar c then
      some (String.ofList (cs.takeWhile isKeyChar), cs.dropWhile isKeyChar)
    else none

def readPath (cs : List Char) : Option (List String × List Char) := do
  let (first, rest) ← readKey (skipSpace cs)
  match skipSpace rest with
  | '.' :: rest =>
    let (second, rest) ← readKey (skipSpace rest)
    some ([first, second], skipSpace rest)
  | rest => some ([first], rest)

def readDigits? (base : Nat) (cs : List Char) : Option Nat :=
  let groups := cs.splitOn '_'
  if groups.all fun group => !group.isEmpty then Text.readBase? base groups.flatten else none

def readDecimal? (cs : List Char) : Option Nat :=
  if cs.head? = some '0' ∧ cs ≠ ['0'] then none else readDigits? 10 cs

def readInteger? : List Char → Option Int
  | '0' :: 'x' :: cs => (readDigits? 16 cs).map fun n => (n : Int)
  | '0' :: 'o' :: cs => (readDigits? 8 cs).map fun n => (n : Int)
  | '0' :: 'b' :: cs => (readDigits? 2 cs).map fun n => (n : Int)
  | '-' :: cs => (readDecimal? cs).map fun n => -(n : Int)
  | '+' :: cs => (readDecimal? cs).map fun n => (n : Int)
  | cs => (readDecimal? cs).map fun n => (n : Int)

def inRange (n : Int) : Bool := -9223372036854775808 ≤ n && n ≤ 9223372036854775807

def isIntegerChar (c : Char) : Bool := c.isAlphanum || c == '_' || c == '+' || c == '-'

def readText (mark : Char) (cs : List Char) : Option (Setting × List Char) :=
  (Quotation.read mark cs).map fun (text, rest) => (.text (String.ofList text), rest)

def readSetting (cs : List Char) : Option (Setting × List Char) :=
  match cs with
  | '[' :: cs =>
    match skipGap false cs with
    | ']' :: rest => some (.empty, rest)
    | _ => none
  | '\x7b' :: cs =>
    match skipSpace cs with
    | '\x7d' :: rest => some (.empty, rest)
    | _ => none
  | '"' :: cs => readText '"' cs
  | '\'' :: cs => readText '\'' cs
  | cs =>
    ((readInteger? (cs.takeWhile isIntegerChar)).filter inRange).map fun n =>
      (.integer n, cs.dropWhile isIntegerChar)

def readPair (cs : List Char) : Option (List String × Setting × List Char) := do
  let (path, rest) ← readPath cs
  match rest with
  | '=' :: rest =>
    let (setting, rest) ← readSetting (skipSpace rest)
    some (path, setting, rest)
  | _ => none

def readBraced (cs : List Char) : Option (List String × Setting × List Char) :=
  match cs with
  | '\x7b' :: cs => do
    let (path, setting, rest) ← readPair cs
    match skipSpace rest with
    | '\x7d' :: rest => some (path, setting, rest)
    | _ => none
  | _ => none

def readAssign (cs : List Char) : Option (Statement × List Char) := do
  let (path, rest) ← readPath cs
  match rest with
  | '=' :: rest =>
    match readBraced (skipSpace rest) with
    | some (inner, setting, rest) => some (assign (path ++ inner) setting, rest)
    | none => (readSetting (skipSpace rest)).map fun (setting, rest) => (assign path setting, rest)
  | _ => none

def readTable (cs : List Char) : Option (Statement × List Char) := do
  let (path, rest) ← readPath cs
  match rest with
  | ']' :: rest => some (table path, rest)
  | _ => none

def readOne (cs : List Char) : Option (Statement × List Char) :=
  match skipSpace cs with
  | '[' :: cs => readTable cs
  | cs => readAssign cs

def readLines : Nat → List Char → Option (List Statement)
  | _, [] => some []
  | 0, _ => none
  | fuel + 1, cs =>
    match endLine cs with
    | some rest => readLines fuel rest
    | none => do
      let (statement, rest) ← readOne cs
      let rest ← endLine rest
      (readLines fuel rest).map (statement :: ·)

def joinLineEnds : List Char → List Char
  | '\r' :: '\n' :: cs => '\n' :: joinLineEnds cs
  | c :: cs => c :: joinLineEnds cs
  | [] => []

def readAll (cs : List Char) : Option (List Statement) :=
  let cs := joinLineEnds cs
  readLines cs.length cs

end Statement

end Spreadsheet.Config
