import Spreadsheet.Document.Basic

namespace Spreadsheet.Document

open Markup

structure Draft where
  name : Option String
  contents : Option String
  deriving DecidableEq, Repr

namespace Draft

def blank : Draft := ⟨none, none⟩

def get (draft : Draft) : Field → Option String
  | .name => draft.name
  | .contents => draft.contents

def set (draft : Draft) (text : String) : Field → Draft
  | .name => ⟨some text, draft.contents⟩
  | .contents => ⟨draft.name, some text⟩

def store (draft : Draft) (field : Field) (text : String) : Except DocumentError Draft :=
  if (draft.get field).isSome then .error (.repeatedField field) else .ok (draft.set text field)

def finish (draft : Draft) : Except DocumentError Record :=
  match draft.name, draft.contents with
  | none, _ => .error .noName
  | some name, none => .error (.noContents name)
  | some name, some contents => .ok ⟨name, contents⟩

end Draft

inductive Scope where
  | outside
  | sheet
  | cell (draft : Draft)
  | field (draft : Draft) (field : Field) (text : List Char)
  | done
  deriving DecidableEq, Repr

structure Progress where
  scope : Scope
  version : String
  records : List Record

namespace Progress

def start : Progress := ⟨.outside, "", []⟩

def enter (p : Progress) (scope : Scope) : Progress := ⟨scope, p.version, p.records⟩

end Progress

def isIndent (c : Char) : Bool := Markup.isSpace c || c == '\x0c'

def unescaped (raw : List Char) : Except DocumentError (List Char) :=
  (Markup.unescape raw).mapError .badReference

def versionOf (attributes : List Char) : Except DocumentError String :=
  match findAttribute "version".toList attributes with
  | .error e => .error (.badAttribute e)
  | .ok none => .error .noVersion
  | .ok (some found) => (unescaped found.raw).map String.ofList

def stray (scope : Scope) (event : Event) : DocumentError :=
  match scope, event with
  | .outside, _ => .wrongRoot
  | .done, _ => .trailingContent
  | _, .opening tag _ | _, .empty tag _ => .strayElement tag
  | _, _ => .strayContent

def root : String := "spreadsheet"

def skipText (p : Progress) (raw : List Char) : Except DocumentError Progress :=
  if raw.all isIndent then .ok p else .error .strayText

def stepOutside (p : Progress) : Event → Except DocumentError Progress
  | .text raw => skipText p raw
  | .opening tag attributes =>
    if tag = root then (versionOf attributes).map fun v => ⟨.sheet, v, p.records⟩
    else .error .wrongRoot
  | .empty tag attributes =>
    if tag = root then (versionOf attributes).map fun v => ⟨.done, v, p.records⟩
    else .error .wrongRoot
  | event => .error (stray .outside event)

def stepSheet (p : Progress) : Event → Except DocumentError Progress
  | .text raw => skipText p raw
  | .opening "cell" _ => .ok (p.enter (.cell .blank))
  | .closing _ => .ok (p.enter .done)
  | event => .error (stray .sheet event)

def stepCell (p : Progress) (draft : Draft) : Event → Except DocumentError Progress
  | .text raw => skipText p raw
  | .opening tag _ =>
    match Field.ofTag? tag with
    | some field => .ok (p.enter (.field draft field []))
    | none => .error (.strayField tag)
  | .empty tag _ =>
    match Field.ofTag? tag with
    | some field => (draft.store field "").map fun draft => p.enter (.cell draft)
    | none => .error .strayEmptyField
  | .closing _ => draft.finish.map fun record => ⟨.sheet, p.version, record :: p.records⟩
  | event => .error (stray (.cell draft) event)

def stepField (p : Progress) (draft : Draft) (field : Field) (text : List Char) :
    Event → Except DocumentError Progress
  | .text raw => (unescaped raw).map fun more => p.enter (.field draft field (text ++ more))
  | .characterData raw => .ok (p.enter (.field draft field (text ++ raw)))
  | .closing _ =>
    (draft.store field (String.ofList text)).map fun draft => p.enter (.cell draft)
  | event => .error (stray (.field draft field text) event)

def stepDone (p : Progress) : Event → Except DocumentError Progress
  | .text raw => skipText p raw
  | event => .error (stray .done event)

def step (p : Progress) (event : Event) : Except DocumentError Progress :=
  if event = .aside then .ok p
  else
    match p.scope with
    | .outside => stepOutside p event
    | .sheet => stepSheet p event
    | .cell draft => stepCell p draft event
    | .field draft field text => stepField p draft field text event
    | .done => stepDone p event

def finish (p : Progress) : Except DocumentError Document :=
  if p.scope = .done then .ok ⟨p.version, p.records.reverse⟩ else .error .notClosed

def byteLength (cs : List Char) : Nat := cs.foldl (fun n c => n + c.utf8Size) 0

def stopError (cs : List Char) (stop : Stop) : DocumentError :=
  .markup (byteLength cs - byteLength stop.rest) stop.fault

def read (cs : List Char) : Except DocumentError Document :=
  let (events, stop) := Markup.events cs
  match events.foldlM step .start with
  | .error e => .error e
  | .ok p =>
    match stop with
    | some stop => .error (stopError cs stop)
    | none => finish p

def versionFrom (stopped : DocumentError) : List Event → Except DocumentError String
  | [] => .error stopped
  | .opening tag attributes :: _ | .empty tag attributes :: _ =>
    if tag = root then versionOf attributes else .error .wrongRoot
  | _ :: events => versionFrom stopped events

def versionStop : Option Stop → DocumentError
  | some stop => .unreadable stop.fault
  | none => .noRoot

def readVersion (cs : List Char) : Except DocumentError String :=
  let (events, stop) := Markup.events cs
  versionFrom (versionStop stop) events

def parse (text : String) : Except DocumentError Document := read text.toList

def parseVersion (text : String) : Except DocumentError String := readVersion text.toList

end Spreadsheet.Document
