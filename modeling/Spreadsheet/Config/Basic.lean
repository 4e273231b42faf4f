import Spreadsheet.CellName
import Spreadsheet.Decimal.Numeral
import Spreadsheet.Document.Basic

namespace Spreadsheet

inductive Spelling where
  | upper
  | lower
  | asWritten
  deriving DecidableEq, Repr

namespace Spelling

def apply : Spelling → String → String
  | upper => String.map Char.toUpper
  | lower => String.map Char.toLower
  | asWritten => id

def ofText? (text : String) : Option Spelling :=
  if text = "upper" then some upper
  else if text = "lower" then some lower
  else if text = "none" then some asWritten
  else none

end Spelling

structure Config where
  version? : Option String
  spelling : Spelling
  maxRow? : Option Nat
  deriving DecidableEq, Repr

namespace Config

def standard : Config := ⟨none, .upper, none⟩

instance : Inhabited Config := ⟨standard⟩

def version (config : Config) : String := config.version?.getD defaultVersion

def rowNumber? (name : String) : Option Nat :=
  let digits := name.toList.dropWhile Char.isAlpha
  (Decimal.readDigits? digits).filter fun n => decide (n < UInt64.size)

def withinRow (maxRow : Nat) (name : String) : Bool :=
  (rowNumber? name).any fun row => decide (row ≤ maxRow)

def nameRules (config : Config) : NameRules where
  spell := config.spelling.apply
  accepts :=
    match config.maxRow? with
    | some maxRow => withinRow maxRow
    | none => fun _ => true

end Config

end Spreadsheet
