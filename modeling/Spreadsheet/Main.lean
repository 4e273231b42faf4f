import Spreadsheet.CommandLine.Program

namespace Spreadsheet.Program

def fileError : IO.Error → FileError
  | .noFileOrDirectory .. => .notFound
  | .invalidArgument _ 36 _ => .nameTooLong
  | .inappropriateType _ 20 _ => .notDirectory
  | .inappropriateType _ 21 _ => .isDirectory
  | e => .other (toString e)

def attempt {α : Type} (action : IO α) : IO (Except FileError α) := do
  try
    return .ok (← action)
  catch e => return .error (fileError e)

def sizeOf? (path : String) : IO (Option Nat) := do
  match ← attempt (IO.FS.readBinFile path) with
  | .ok bytes => return some bytes.size
  | .error .notFound | .error .notDirectory => return none
  | .error _ => return some 0

instance : Files IO where
  readBytes path := attempt (IO.FS.readBinFile path)
  writeText path text := attempt (IO.FS.writeFile path text)
  size? path := sizeOf? path

def ownConfig : IO String := do
  let settings := "cellgraph/config.toml"
  match ← IO.getEnv "XDG_CONFIG_HOME" with
  | some directory => return directory ++ "/" ++ settings
  | none => return (← IO.getEnv "HOME").getD "" ++ "/.config/" ++ settings

def main (args : List String) : IO UInt32 := do
  let outcome : Outcome ← run args (← ownConfig)
  outcome.errors.forM IO.eprintln
  outcome.lines.forM IO.println
  return outcome.exitCode

end Spreadsheet.Program

def main (args : List String) : IO UInt32 := Spreadsheet.Program.main args
