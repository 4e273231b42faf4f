import Spreadsheet.CommandLine.Session
import Spreadsheet.CommandLine.Usage

namespace Spreadsheet.Program

structure Outcome where
  exitCode : UInt32
  lines : List String
  errors : List String

def Outcome.ofReport (report : Session.Report) : Outcome :=
  ⟨report.exitCode, report.lines, report.errorLines⟩

section

variable {m : Type → Type} [Monad m] [Files m]

def run (args : List String) (ownConfig : String) : m Outcome := do
  match Arguments.parse args with
  | .error e => return ⟨1, [], ("Error: " ++ e.message) :: usage⟩
  | .ok a =>
    if a.help then return ⟨0, [], usage⟩
    let report ← Session.run a ownConfig
    return .ofReport report

end

end Spreadsheet.Program
