import SchemaForms.Text.Search

set_option autoImplicit false

namespace SchemaForms

namespace Path

def isAbsolute (path : String) : Bool := path.toList.head? = some '/'

def join (base path : String) : String :=
  if isAbsolute path || base.isEmpty then path
  else if base.toList.getLast? = some '/' then base ++ path
  else base ++ "/" ++ path

def parts (path : String) : List String := (Text.parts '/' path.toList).map String.ofList

end Path

inductive ReadError
  | notFound
  | notDirectory
  | isDirectory
  | nameTooLong
  | nulInName
  | notText
  | other (reason : String)
deriving DecidableEq, Repr

namespace ReadError

def message : ReadError → String
  | .notFound => "No such file or directory (os error 2)"
  | .notDirectory => "Not a directory (os error 20)"
  | .isDirectory => "Is a directory (os error 21)"
  | .nameTooLong => "File name too long (os error 36)"
  | .nulInName => "file name contained an unexpected NUL byte"
  | .notText => "stream did not contain valid UTF-8"
  | .other reason => reason

def showsPresence : ReadError → Bool
  | .isDirectory | .notText | .other _ => true
  | .notFound | .notDirectory | .nameTooLong | .nulInName => false

end ReadError

inductive FileEntry
  | file (bytes : ByteArray)
  | directory

structure FileTree where
  entries : List (List String × FileEntry)

namespace FileTree

/-- A directory is there also if only something below it is listed. -/
def find? (tree : FileTree) (place : List String) : Option FileEntry :=
  match tree.entries.find? fun entry => entry.1 = place with
  | some entry => some entry.2
  | none =>
    if place.isEmpty || tree.entries.any fun entry => place.isPrefixOf entry.1 then
      some .directory
    else none

def nameLimit : Nat := 255

def pathLimit : Nat := 4095

def follow (tree : FileTree) (place : List String) : List String → Except ReadError FileEntry
  | [] => (tree.find? place).elim (.error .notFound) .ok
  | part :: rest =>
    match tree.find? place with
    | none => .error .notFound
    | some (.file _) => .error .notDirectory
    | some .directory =>
      if part = "" || part = "." then follow tree place rest
      else if part = ".." then follow tree place.dropLast rest
      else if part.utf8ByteSize > nameLimit then .error .nameTooLong
      else follow tree (place ++ [part]) rest

def read (tree : FileTree) (base : List String) (path : String) : Except ReadError String := do
  if path.contains '\x00' then throw .nulInName
  if path.isEmpty then throw .notFound
  if path.utf8ByteSize > pathLimit then throw .nameTooLong
  match ← tree.follow (if Path.isAbsolute path then [] else base) (Path.parts path) with
  | .directory => throw .isDirectory
  | .file bytes =>
    match String.fromUTF8? bytes with
    | some text => return text
    | none => throw .notText

end FileTree

end SchemaForms
