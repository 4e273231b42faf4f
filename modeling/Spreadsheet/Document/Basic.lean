import Spreadsheet.Markup.Attribute
import Spreadsheet.Markup.Entity

namespace Spreadsheet

structure Record where
  name : String
  contents : String
  deriving DecidableEq, Repr

structure Document where
  version : String
  records : List Record
  deriving DecidableEq, Repr

def defaultVersion : String := "1.0"

inductive Field where
  | name
  | contents
  deriving DecidableEq, Repr

def Field.tag : Field → String
  | name => "name"
  | contents => "contents"

def Field.ofTag? (tag : String) : Option Field :=
  if tag = Field.name.tag then some .name
  else if tag = Field.contents.tag then some .contents
  else none

inductive DocumentError where
  | markup (offset : Nat) (fault : Markup.MarkupFault)
  | unreadable (fault : Markup.MarkupFault)
  | badAttribute (fault : Markup.AttributeFault)
  | badReference (fault : Markup.EntityFault)
  | wrongRoot
  | noRoot
  | noVersion
  | notClosed
  | trailingContent
  | strayText
  | strayContent
  | strayElement (tag : String)
  | strayField (tag : String)
  | strayEmptyField
  | noName
  | noContents (name : String)
  | repeatedField (field : Field)
  deriving DecidableEq, Repr

namespace DocumentError

def message : DocumentError → String
  | markup offset fault => "XML error at byte " ++ toString offset ++ ": " ++ fault.message
  | unreadable fault => fault.message
  | badAttribute fault => fault.message
  | badReference fault => fault.message
  | wrongRoot => "root element must be <spreadsheet>"
  | noRoot => "no <spreadsheet> element"
  | noVersion => "<spreadsheet> has no version attribute"
  | notClosed => "document ended before </spreadsheet>"
  | trailingContent => "content after </spreadsheet>"
  | strayText => "unexpected text outside <name> or <contents>"
  | strayContent => "unexpected XML content"
  | strayElement tag => "unexpected <" ++ tag ++ ">"
  | strayField tag => "unexpected <" ++ tag ++ "> in <cell>"
  | strayEmptyField => "unexpected empty element in <cell>"
  | noName => "<cell> has no <name>"
  | noContents name => "<cell> " ++ name ++ " has no <contents>"
  | repeatedField field => "<cell> has more than one <" ++ field.tag ++ ">"

end DocumentError

end Spreadsheet
