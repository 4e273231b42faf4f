import Spreadsheet.Document.Printer
import Spreadsheet.Document.Reader
import Spreadsheet.Files.Basic
import Spreadsheet.Files.Path
import Spreadsheet.Sheet.Edit
import Spreadsheet.Text.Quoted

/-!
Sheets as documents and as files. Loading enters the records of a document, one after the other,
into an empty sheet.
-/

namespace Spreadsheet

inductive StorageError where
  | emptyVersion
  | file (error : FileError)
  | document (error : DocumentError)
  | versionMismatch (path saved expected : String)
  | record (name : String) (error : EditError)
  deriving DecidableEq, Repr

def StorageError.cause : StorageError → String
  | emptyVersion => "cannot save a document with an empty version"
  | file error => error.message
  | document error => error.message
  | versionMismatch path saved expected =>
    "version mismatch: " ++ path ++ " was saved as version " ++ Text.quoted saved ++
      ", expected " ++ Text.quoted expected
  | record name error => "cell " ++ name ++ ": " ++ error.message

def StorageError.message (e : StorageError) : String := "read/write error: " ++ e.cause

namespace Sheet

def records (s : Sheet) : List Record :=
  s.cells.map fun (name, cell) => ⟨name, cell.contents.inputText⟩

def document (s : Sheet) : Document := ⟨s.version, s.records⟩

def toMarkup (s : Sheet) : String := s.document.text

def enter (s : Sheet) (record : Record) : Except StorageError Sheet :=
  match s.set record.name record.contents with
  | (.ok _, s) => .ok s
  | (.error e, _) => .error (.record record.name e)

def ofRecords (rules : NameRules) (version : String) (records : List Record) :
    Except StorageError Sheet :=
  (records.foldlM enter (empty rules version)).map fun s => { s with changed := false }

def parseDocument (text : String) : Except StorageError Document :=
  (Document.parse text).mapError .document

def reload (s : Sheet) (text : String) : Except StorageError Sheet := do
  let document ← parseDocument text
  ofRecords s.rules s.version document.records

def keep (s : Sheet) : Except StorageError Sheet → Except StorageError Unit × Sheet
  | .ok loaded => (.ok (), loaded)
  | .error e => (.error e, s)

def load (s : Sheet) (text : String) : Except StorageError Unit × Sheet := s.keep (s.reload text)

def ofText (path : String) (rules : NameRules) (version text : String) :
    Except StorageError Sheet := do
  let document ← parseDocument text
  if document.version = version then ofRecords rules version document.records
  else .error (.versionMismatch path document.version version)

section Files

variable {m : Type → Type} [Monad m] [Files m]

def readFile (path : String) : m (Except StorageError String) := do
  let text ← Files.readText path
  return text.mapError .file

def loadFile (s : Sheet) (path : String) : m (Except StorageError Unit × Sheet) := do
  let text ← readFile path
  return s.keep (text.bind s.reload)

def openFile (path : String) (rules : NameRules) (version : String) :
    m (Except StorageError Sheet) := do
  let text ← readFile path
  return text.bind (ofText path rules version)

def savedVersion (path : String) : m (Except StorageError String) := do
  let text ← readFile path
  return text.bind fun text => (Document.parseVersion text).mapError .document

def save (s : Sheet) (path : String) : m (Except StorageError String × Sheet) := do
  if Text.isBlankText s.version then return (.error .emptyVersion, s)
  let path := Path.forSaving path
  match ← Files.writeText path s.toMarkup with
  | .ok () => return (.ok path, { s with changed := false })
  | .error e => return (.error (.file e), s)

end Files

end Sheet

end Spreadsheet
