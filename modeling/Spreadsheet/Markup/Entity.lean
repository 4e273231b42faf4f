import Spreadsheet.Text.Digits

namespace Spreadsheet.Markup

inductive EntityFault where
  | unterminated
  | unknown (name : String)
  | badNumber (digits : String)
  deriving DecidableEq, Repr

def EntityFault.message : EntityFault → String
  | unterminated => "a character reference has no `;`"
  | unknown name => "unknown character reference `" ++ name ++ "`"
  | badNumber digits => "invalid character reference `" ++ digits ++ "`"

def escapeChar (c : Char) : List Char :=
  if c = '<' then "&lt;".toList
  else if c = '>' then "&gt;".toList
  else if c = '&' then "&amp;".toList
  else if c = '\'' then "&apos;".toList
  else if c = '"' then "&quot;".toList
  else [c]

def escape (cs : List Char) : List Char := cs.flatMap escapeChar

def charNumbered? (base : Nat) (digits : List Char) : Option Char :=
  ((Text.readBase? base digits).filter (· ≠ 0)).bind Text.charOfCode?

def numbered? : List Char → Option Char
  | 'x' :: digits => charNumbered? 16 digits
  | digits => charNumbered? 10 digits

def referenced (cs : List Char) : Except EntityFault Char :=
  match cs with
  | '#' :: digits =>
    match numbered? digits with
    | some c => .ok c
    | none => .error (.badNumber (String.ofList digits))
  | _ =>
    if cs = "lt".toList then .ok '<'
    else if cs = "gt".toList then .ok '>'
    else if cs = "amp".toList then .ok '&'
    else if cs = "apos".toList then .ok '\''
    else if cs = "quot".toList then .ok '"'
    else .error (.unknown (String.ofList cs))

def unescapeFrom (reference : Option (List Char)) : List Char → Except EntityFault (List Char)
  | [] => if reference.isSome then .error .unterminated else .ok []
  | c :: cs =>
    match reference with
    | none =>
      if c = '&' then unescapeFrom (some []) cs else (unescapeFrom none cs).map (c :: ·)
    | some name =>
      if c = ';' then
        match referenced name.reverse with
        | .ok d => (unescapeFrom none cs).map (d :: ·)
        | .error e => .error e
      else if c = '&' then .error .unterminated
      else unescapeFrom (some (c :: name)) cs

def unescape (cs : List Char) : Except EntityFault (List Char) := unescapeFrom none cs

end Spreadsheet.Markup
