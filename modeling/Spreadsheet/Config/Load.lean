import Spreadsheet.Config.Reader
import Spreadsheet.Files.Basic

namespace Spreadsheet.Config

inductive Warning where
  | notFound (path : String)
  | tooLarge (path : String) (size : Nat)
  | unreadable (path : String) (error : FileError)
  | notSettings (path : String)
  deriving DecidableEq, Repr

def maxBytes : Nat := 65536

def Warning.message : Warning → String
  | notFound path => "Config file not found: " ++ path
  | tooLarge path size =>
    "Refusing to read " ++ path ++ ": file too large (" ++ toString size ++ " bytes, max " ++
      toString maxBytes ++ ")"
  | unreadable path error => "Failed to read " ++ path ++ ": " ++ error.message
  | notSettings path => "Failed to parse " ++ path ++ ": a statement is not a known setting"

section

variable {m : Type → Type} [Monad m] [Files m]

def loadFile (path : String) (size : Nat) : m (Config × List Warning) := do
  if maxBytes < size then return (standard, [.tooLarge path size])
  match ← Files.readText path with
  | .error e => return (standard, [.unreadable path e])
  | .ok text =>
    match parse text with
    | some config => return (config, [])
    | none => return (standard, [.notSettings path])

def load (given : Option String) (own : String) : m (Config × List Warning) := do
  let path := given.getD own
  match ← Files.size? path with
  | some size => loadFile path size
  | none => return (standard, if given.isSome then [.notFound path] else [])

end

end Spreadsheet.Config
