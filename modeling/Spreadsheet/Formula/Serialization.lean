import Spreadsheet.Formula.Basic

namespace Spreadsheet

structure TextFormat (ε δ : Type) where
  write : String → Except ε δ
  read : δ → Except ε String

inductive DecodeError (ε : Type) where
  | data (error : ε)
  | formula (error : FormatError)

namespace Formula

variable {ε δ : Type} (format : TextFormat ε δ)

def serialize (f : Formula) : Except ε δ := format.write f.canonical

def deserialize (data : δ) : Except (DecodeError ε) Formula :=
  match format.read data with
  | .error e => .error (.data e)
  | .ok text => (parse text).mapError .formula

end Formula

end Spreadsheet
