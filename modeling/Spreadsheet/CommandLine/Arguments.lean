import Spreadsheet.Text.Blank

namespace Spreadsheet

inductive Edit where
  | set (name content : String)
  | check (name content : String)
  deriving DecidableEq, Repr

inductive ArgumentError where
  | missingValue (flag : String)
  | unknownOption (arg : String)
  | unexpectedArgument (arg : String)
  | invalidAssignment (arg : String)
  deriving DecidableEq, Repr

def ArgumentError.message : ArgumentError → String
  | missingValue flag => flag ++ " requires a value"
  | unknownOption arg => "Unknown option: " ++ arg
  | unexpectedArgument arg => "Unexpected argument: " ++ arg
  | invalidAssignment arg => "Expected NAME=CONTENT, got `" ++ arg ++ "`"

structure Arguments where
  help : Bool
  file : Option String
  edits : List Edit
  output : Option String
  versionTag : Option String
  configFile : Option String
  noConfig : Bool
  verbose : Bool
  deriving DecidableEq, Repr

namespace Arguments

def none : Arguments := ⟨false, .none, [], .none, .none, .none, false, false⟩

inductive Flag where
  | set
  | check
  | output
  | versionTag
  | config
  deriving DecidableEq, Repr

def Flag.ofText? (arg : String) : Option Flag :=
  if arg = "-s" ∨ arg = "--set" then some set
  else if arg = "--check" then some check
  else if arg = "-o" ∨ arg = "--output" then some output
  else if arg = "--version-tag" then some versionTag
  else if arg = "--config" then some config
  else .none

inductive Switch where
  | help
  | noConfig
  | verbose
  deriving DecidableEq, Repr

def Switch.ofText? (arg : String) : Option Switch :=
  if arg = "-h" ∨ arg = "--help" then some help
  else if arg = "--no-config" then some noConfig
  else if arg = "-v" ∨ arg = "--verbose" then some verbose
  else .none

def splitAssignment (arg : String) : Except ArgumentError (String × String) :=
  let cs := arg.toList
  let name := Text.trim (cs.takeWhile (· ≠ '='))
  match cs.dropWhile (· ≠ '=') with
  | _ :: content =>
    if name.isEmpty then .error (.invalidAssignment arg)
    else .ok (String.ofList name, String.ofList content)
  | [] => .error (.invalidAssignment arg)

def addEdit (a : Arguments) (edit : Edit) : Arguments := { a with edits := a.edits ++ [edit] }

def take (a : Arguments) (flag : Flag) (value : String) : Except ArgumentError Arguments :=
  match flag with
  | .set => (splitAssignment value).map fun (name, content) => a.addEdit (.set name content)
  | .check => (splitAssignment value).map fun (name, content) => a.addEdit (.check name content)
  | .output => .ok { a with output := some value }
  | .versionTag => .ok { a with versionTag := some value }
  | .config => .ok { a with configFile := some value }

def takeFile (a : Arguments) (arg : String) : Except ArgumentError Arguments :=
  if arg.toList.head? = some '-' then .error (.unknownOption arg)
  else if a.file.isSome then .error (.unexpectedArgument arg)
  else .ok { a with file := some arg }

def turnOn (a : Arguments) : Switch → Arguments
  | .help => { a with help := true }
  | .noConfig => { a with noConfig := true }
  | .verbose => { a with verbose := true }

def parseFrom (a : Arguments) : List String → Except ArgumentError Arguments
  | [] => .ok a
  | arg :: args =>
    match Switch.ofText? arg, Flag.ofText? arg with
    | some .help, _ => .ok (a.turnOn .help)
    | some switch, _ => parseFrom (a.turnOn switch) args
    | .none, some flag =>
      match args with
      | [] => .error (.missingValue arg)
      | value :: args =>
        match a.take flag value with
        | .ok a => parseFrom a args
        | .error e => .error e
    | .none, .none =>
      match a.takeFile arg with
      | .ok a => parseFrom a args
      | .error e => .error e

def parse (args : List String) : Except ArgumentError Arguments := parseFrom none args

end Arguments

end Spreadsheet
