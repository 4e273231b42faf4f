import Spreadsheet.Text.Printable

namespace Spreadsheet.Text.Quoted

def codePoint (c : Char) : List Char :=
  ['\\', 'u', '\x7b'] ++ Nat.toDigits 16 c.toNat ++ ['\x7d']

def encodeChar (c : Char) : List Char :=
  match c with
  | '\x00' => ['\\', '0']
  | '\t' => ['\\', 't']
  | '\r' => ['\\', 'r']
  | '\n' => ['\\', 'n']
  | '"' => ['\\', '"']
  | '\\' => ['\\', '\\']
  | c => if isPrintable c then [c] else codePoint c

def encode (cs : List Char) : List Char := '"' :: cs.flatMap encodeChar ++ ['"']

end Spreadsheet.Text.Quoted

namespace Spreadsheet.Text

def quoted (s : String) : String := String.ofList (Quoted.encode s.toList)

end Spreadsheet.Text
