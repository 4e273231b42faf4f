import Spreadsheet.CommandLine.Arguments
import Spreadsheet.Config.Load
import Spreadsheet.Sheet.Storage

namespace Spreadsheet.Session

inductive Failure where
  | cannotOpen (path : String) (error : StorageError)
  | cannotSet (name : String) (error : EditError)
  | cannotSave (path : String) (error : StorageError)
  deriving DecidableEq, Repr

def Failure.message : Failure → String
  | cannotOpen path error => "cannot open " ++ path ++ ": " ++ error.message
  | cannotSet name error => "cannot set " ++ name ++ ": " ++ error.message
  | cannotSave path error => "cannot save " ++ path ++ ": " ++ error.message

structure Report where
  warnings : List Config.Warning
  lines : List String
  failure : Option Failure

namespace Report

def exitCode (report : Report) : UInt32 := if report.failure.isSome then 1 else 0

def errorLines (report : Report) : List String :=
  report.warnings.map (fun w => "Warning: " ++ w.message) ++
    report.failure.toList.map fun f => "Error: " ++ f.message

end Report

def orderLine (order : List String) : String :=
  order.headD "" ++ ": recalculated " ++ String.intercalate ", " order

def checkLine (name : String) (result : Except EditError Unit) : String :=
  match result with
  | .ok () => "check " ++ name ++ ": ok"
  | .error e => "check " ++ name ++ ": " ++ e.message

def applyEdits (s : Sheet) : List Edit → List String × Except Failure Sheet
  | [] => ([], .ok s)
  | .set name content :: edits =>
    match s.set name content with
    | (.ok order, s) =>
      let (lines, result) := applyEdits s edits
      (orderLine order :: lines, result)
    | (.error e, _) => ([], .error (.cannotSet name e))
  | .check name content :: edits =>
    let (outcome, s) := s.check name content
    let (lines, result) := applyEdits s edits
    (checkLine name outcome :: lines, result)

def cellLine (entry : String × Cell) : String :=
  entry.1 ++ "\t" ++ entry.2.contents.inputText ++ "\t" ++ entry.2.value.display

def table (s : Sheet) : List String := s.cells.map cellLine

section

variable {m : Type → Type} [Monad m] [Files m]

def openSheet (file : Option String) (rules : NameRules) (version : String) :
    m (Except Failure Sheet) := do
  match file with
  | none => return .ok (.empty rules version)
  | some path =>
    if ← Files.exists? path then
      let sheet ← Sheet.openFile path rules version
      return sheet.mapError (.cannotOpen path)
    else return .ok (.empty rules version)

def finish (output : Option String) (s : Sheet) : m (List String × Option Failure) := do
  match output with
  | none => return (table s, none)
  | some path =>
    match ← s.save path with
    | (.ok written, s) => return (("Saved to " ++ written) :: table s, none)
    | (.error e, _) => return ([], some (.cannotSave path e))

def editAndFinish (a : Arguments) (s : Sheet) : m (List String × Option Failure) := do
  match applyEdits s a.edits with
  | (lines, .error failure) => return (lines, some failure)
  | (lines, .ok s) =>
    let (more, failure) ← finish a.output s
    return (lines ++ more, failure)

def loadConfig (a : Arguments) (ownConfig : String) : m (Config × List Config.Warning) :=
  if a.noConfig then pure (.standard, []) else Config.load a.configFile ownConfig

def run (a : Arguments) (ownConfig : String) : m Report := do
  let (config, warnings) ← loadConfig a ownConfig
  match ← openSheet a.file config.nameRules (a.versionTag.getD config.version) with
  | .error failure => return ⟨warnings, [], some failure⟩
  | .ok s =>
    let (lines, failure) ← editAndFinish a s
    return ⟨warnings, lines, failure⟩

end

end Spreadsheet.Session
