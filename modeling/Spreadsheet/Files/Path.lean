namespace Spreadsheet.Path

def segments (path : List Char) : List (List Char) :=
  path.foldr
    (fun c parts => if c = '/' then [] :: parts else (c :: parts.headD []) :: parts.tail) [[]]

def join (parts : List (List Char)) : List Char := List.intercalate ['/'] parts

def isIdle (segment : List Char) : Bool := segment.isEmpty || segment == ['.']

def trimmed (path : List Char) : List (List Char) :=
  ((segments path).reverse.dropWhile isIdle).reverse

def fileName? (path : List Char) : Option (List Char) :=
  match (trimmed path).getLast? with
  | some name => if name = ['.', '.'] then none else some name
  | none => none

def hasExtension (name : List Char) : Bool := name.tail.contains '.'

def extension : List Char := ".ss".toList

def withExtension (path : List Char) : List Char :=
  match fileName? path with
  | some name => if hasExtension name then path else join (trimmed path) ++ extension
  | none => path

def forSaving (path : String) : String := String.ofList (withExtension path.toList)

end Spreadsheet.Path
