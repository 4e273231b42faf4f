import Spreadsheet.CommandLine.Arguments

namespace Spreadsheet

inductive Item where
  | set (long : Bool) (name content : String)
  | check (name content : String)
  | output (long : Bool) (path : String)
  | versionTag (tag : String)
  | config (path : String)
  | noConfig
  | verbose (long : Bool)
  | file (path : String)
  deriving DecidableEq, Repr

namespace Item

def assignment (name content : String) : String := name ++ "=" ++ content

def render : Item → List String
  | .set long name content => [if long then "--set" else "-s", assignment name content]
  | .check name content => ["--check", assignment name content]
  | .output long path => [if long then "--output" else "-o", path]
  | .versionTag tag => ["--version-tag", tag]
  | .config path => ["--config", path]
  | .noConfig => ["--no-config"]
  | .verbose long => [if long then "--verbose" else "-v"]
  | .file path => [path]

def add (a : Arguments) : Item → Arguments
  | .set _ name content => a.addEdit (.set (Text.trimmed name) content)
  | .check name content => a.addEdit (.check (Text.trimmed name) content)
  | .output _ path => { a with output := some path }
  | .versionTag tag => { a with versionTag := some tag }
  | .config path => { a with configFile := some path }
  | .noConfig => { a with noConfig := true }
  | .verbose _ => { a with verbose := true }
  | .file path => { a with file := some path }

def Valid : Item → Prop
  | .set _ name _ | .check name _ => '=' ∉ name.toList ∧ Text.isBlankText name = false
  | .file path => path.toList.head? ≠ some '-'
  | _ => True

def file? : Item → Option String
  | .file path => some path
  | _ => none

def edit? : Item → Option Edit
  | .set _ name content => some (.set (Text.trimmed name) content)
  | .check name content => some (.check (Text.trimmed name) content)
  | _ => none

def output? : Item → Option String
  | .output _ path => some path
  | _ => none

def versionTag? : Item → Option String
  | .versionTag tag => some tag
  | _ => none

def config? : Item → Option String
  | .config path => some path
  | _ => none

def isNoConfig : Item → Bool
  | .noConfig => true
  | _ => false

def isVerbose : Item → Bool
  | .verbose _ => true
  | _ => false

end Item

def Arguments.ofItems (items : List Item) : Arguments := items.foldl Item.add none

end Spreadsheet
