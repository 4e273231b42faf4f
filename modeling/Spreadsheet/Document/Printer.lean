import Spreadsheet.Document.Basic

namespace Spreadsheet.Document

def header : List Char := "<?xml version=\"1.0\" encoding=\"UTF-8\"?>\n".toList

def renderField (field : Field) (text : String) : List Char :=
  "    <".toList ++ field.tag.toList ++ '>' :: Markup.escape text.toList ++
    "</".toList ++ field.tag.toList ++ ">\n".toList

def renderRecord (record : Record) : List Char :=
  "  <cell>\n".toList ++ renderField .name record.name ++
    renderField .contents record.contents ++ "  </cell>\n".toList

def render (document : Document) : List Char :=
  header ++ "<spreadsheet version=\"".toList ++ Markup.escape document.version.toList ++
    "\">\n".toList ++ document.records.flatMap renderRecord ++ "</spreadsheet>".toList

def text (document : Document) : String := String.ofList document.render

end Spreadsheet.Document
