namespace Spreadsheet

inductive FileError where
  | notFound
  | notDirectory
  | isDirectory
  | nameTooLong
  | nulInName
  | notText
  | other (message : String)
  deriving DecidableEq, Repr

def FileError.message : FileError → String
  | notFound => "No such file or directory (os error 2)"
  | notDirectory => "Not a directory (os error 20)"
  | isDirectory => "Is a directory (os error 21)"
  | nameTooLong => "File name too long (os error 36)"
  | nulInName => "file name contained an unexpected NUL byte"
  | notText => "stream did not contain valid UTF-8"
  | other message => message

class Files (m : Type → Type) where
  readBytes : String → m (Except FileError ByteArray)
  writeText : String → String → m (Except FileError Unit)
  size? : String → m (Option Nat)

namespace Files

def decode (bytes : ByteArray) : Except FileError String :=
  match String.fromUTF8? bytes with
  | some text => .ok text
  | none => .error .notText

def readText {m : Type → Type} [Monad m] [Files m] (path : String) :
    m (Except FileError String) := do
  let bytes ← readBytes path
  return bytes.bind decode

def exists? {m : Type → Type} [Monad m] [Files m] (path : String) : m Bool := do
  let size ← Files.size? path
  return size.isSome

end Files

end Spreadsheet
