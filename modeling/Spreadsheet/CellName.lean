import Spreadsheet.Formula.Lexeme

namespace Spreadsheet

structure NameRules where
  spell : String → String
  accepts : String → Bool

namespace NameRules

def standard : NameRules := ⟨String.map Char.toUpper, fun _ => true⟩

def normalize (rules : NameRules) (name : String) : String := rules.spell (Text.trimmed name)

def resolve (rules : NameRules) (name : String) : Option String :=
  let normal := rules.normalize name
  if isVariable normal && rules.accepts normal then some normal else none

def isValid (rules : NameRules) (name : String) : Bool := (rules.resolve name).isSome

end NameRules

instance : Inhabited NameRules := ⟨NameRules.standard⟩

end Spreadsheet
