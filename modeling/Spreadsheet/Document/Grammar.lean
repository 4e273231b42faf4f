import Spreadsheet.Document.Reader

/-!
The grammar of documents, over the events of their markup. A document is a root element with a
version and any number of cells in it, a cell is an element with a name and with contents, and
between elements there is white space only.
-/

namespace Spreadsheet

open Markup

inductive Markup.AttributeText : Attribute → List Char → Prop where
  | intro {blanks key blanks' blanks'' raw : List Char} {c q : Char}
    (hblanks : blanks.all isSpace = true) (hc : isSpace c = false) (hkey : key.all inKey = true)
    (hblanks' : blanks'.all isSpace = true) (hblanks'' : blanks''.all isSpace = true)
    (hq : isQuote q = true) (hraw : q ∉ raw) :
    AttributeText ⟨c :: key, raw⟩
      (blanks ++ c :: key ++ blanks' ++ '=' :: blanks'' ++ q :: raw ++ [q])

/-- The text begins with well-formed attributes, the last of which is the first one that has the
key. What follows it can be anything. -/
inductive Markup.FirstAttribute (key raw : List Char) : List Char → Prop where
  | here {text rest : List Char} (h : AttributeText ⟨key, raw⟩ text) :
    FirstAttribute key raw (text ++ rest)
  | later {found : Attribute} {text rest : List Char} (hfound : AttributeText found text)
    (hkey : found.key ≠ key) (h : FirstAttribute key raw rest) :
    FirstAttribute key raw (text ++ rest)

def Field.other : Field → Field
  | name => contents
  | contents => name

def Record.get (record : Record) : Field → String
  | .name => record.name
  | .contents => record.contents

namespace Document

def significant (events : List Event) : List Event := events.filter (· ≠ .aside)

def VersionAttribute (attributes : List Char) (version : String) : Prop :=
  ∃ raw cs, FirstAttribute "version".toList raw attributes ∧ unescape raw = .ok cs ∧
    version = String.ofList cs

def Indentation (events : List Event) : Prop :=
  ∀ event ∈ events, ∃ raw, event = .text raw ∧ raw.all isIndent = true

inductive Characters : List Event → List Char → Prop where
  | nil : Characters [] []
  | text {raw cs more : List Char} {events : List Event} (hraw : unescape raw = .ok cs)
    (h : Characters events more) : Characters (.text raw :: events) (cs ++ more)
  | characterData {raw more : List Char} {events : List Event} (h : Characters events more) :
    Characters (.characterData raw :: events) (raw ++ more)

inductive FieldElement (field : Field) : String → List Event → Prop where
  | empty (attributes : List Char) : FieldElement field "" [.empty field.tag attributes]
  | tags (attributes : List Char) {events : List Event} {cs : List Char}
    (h : Characters events cs) : FieldElement field (String.ofList cs)
      (.opening field.tag attributes :: events ++ [.closing field.tag])

inductive CellBody (record : Record) : List Event → Prop where
  | intro (first : Field) {i₁ i₂ i₃ e₁ e₂ : List Event} (hi₁ : Indentation i₁)
    (he₁ : FieldElement first (record.get first) e₁) (hi₂ : Indentation i₂)
    (he₂ : FieldElement first.other (record.get first.other) e₂) (hi₃ : Indentation i₃) :
    CellBody record (i₁ ++ e₁ ++ i₂ ++ e₂ ++ i₃)

inductive CellElement (record : Record) : List Event → Prop where
  | tags (attributes : List Char) {body : List Event} (h : CellBody record body) :
    CellElement record (.opening "cell" attributes :: body ++ [.closing "cell"])

inductive CellElements : List Record → List Event → Prop where
  | nil : CellElements [] []
  | indent {raw : List Char} {records : List Record} {events : List Event}
    (hraw : raw.all isIndent = true) (h : CellElements records events) :
    CellElements records (.text raw :: events)
  | cell {record : Record} {records : List Record} {element events : List Event}
    (hcell : CellElement record element) (h : CellElements records events) :
    CellElements (record :: records) (element ++ events)

inductive RootElement : Document → List Event → Prop where
  | empty {attributes : List Char} {version : String} (hv : VersionAttribute attributes version) :
    RootElement ⟨version, []⟩ [.empty root attributes]
  | tags {attributes : List Char} {version : String} {records : List Record} {body : List Event}
    (hv : VersionAttribute attributes version) (h : CellElements records body) :
    RootElement ⟨version, records⟩ (.opening root attributes :: body ++ [.closing root])

inductive Derives (document : Document) : List Event → Prop where
  | intro {before element after : List Event} (hbefore : Indentation before)
    (helement : RootElement document element) (hafter : Indentation after) :
    Derives document (before ++ element ++ after)

end Document

end Spreadsheet
