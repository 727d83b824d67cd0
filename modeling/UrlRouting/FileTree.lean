import UrlRouting.Percent
import UrlRouting.Text.Slash

/-! Trees of files, as seen from a directory. A path is followed piece by piece. Nothing is known of
what lies above the directory. -/

namespace UrlRouting

inductive FileNode where
  | file (bytes : List UInt8)
  | directory
deriving DecidableEq, Repr, Inhabited

inductive FileError where
  | notFound
  | notADirectory
  | isADirectory
  | nameTooLong
  | nameWithNul
  | notText
  /-- Any other reason, in the words of the system. -/
  | other (reason : String)
deriving DecidableEq, Repr, Inhabited

def FileError.message : FileError → String
  | notFound => "No such file or directory (os error 2)"
  | notADirectory => "Not a directory (os error 20)"
  | isADirectory => "Is a directory (os error 21)"
  | nameTooLong => "File name too long (os error 36)"
  | nameWithNul => "file name contained an unexpected NUL byte"
  | notText => "stream did not contain valid UTF-8"
  | other reason => reason

abbrev FileReader := String → Except FileError String

def decodeFile (bytes : List UInt8) : Except FileError String :=
  match Percent.utf8? bytes with
  | some text => .ok (String.ofList text)
  | none => .error .notText

/-- Files and directories by the pieces of their paths. A directory on the way to one need not be
listed. -/
structure FileTree where
  nodes : List (List String × FileNode)

namespace FileTree

instance : Inhabited FileTree := ⟨⟨[]⟩⟩

def pieces (path : String) : List String := (Slash.pieces path.toList).map String.ofList

def ofList (files : List (String × FileNode)) : FileTree :=
  ⟨files.map fun f => (pieces f.1, f.2)⟩

def node? (t : FileTree) (place : List String) : Option FileNode :=
  match t.nodes.lookup place with
  | some node => some node
  | none =>
    if place.isEmpty || t.nodes.any (fun n => place.isPrefixOf n.1) then some .directory else none

def nameLimit : Nat := 255

def pathLimit : Nat := 4095

/-- Follows the pieces of a path from a place. Each is looked up in what must be a directory. -/
def follow (t : FileTree) (place : List String) : List String → Except FileError FileNode
  | [] => match t.node? place with
    | some node => .ok node
    | none => .error .notFound
  | piece :: rest =>
    match t.node? place with
    | none => .error .notFound
    | some (.file _) => .error .notADirectory
    | some .directory =>
      if piece = "" ∨ piece = "." then follow t place rest
      else if piece = ".." then
        if place.isEmpty then .error .notFound else follow t place.dropLast rest
      else if nameLimit < piece.utf8ByteSize then .error .nameTooLong
      else follow t (place ++ [piece]) rest

def find (t : FileTree) (path : String) : Except FileError FileNode :=
  if path.toList.contains '\x00' then .error .nameWithNul
  else if pathLimit < path.utf8ByteSize then .error .nameTooLong
  else if path.toList.head?.all (· == '/') then .error .notFound
  else t.follow [] (pieces path)

def read (t : FileTree) : FileReader := fun path => do
  match ← t.find path with
  | .directory => .error .isADirectory
  | .file bytes => decodeFile bytes

def fileName? (path : String) : Option String :=
  match ((pieces path).filter fun p => p != "" && p != ".").getLast? with
  | some name => if name = ".." then none else some name
  | none => none

/-- What follows the last point in the file name of a path, if something precedes it. -/
def extension? (path : String) : Option String := do
  let name ← fileName? path
  let backwards := name.toList.reverse
  match backwards.dropWhile (· != '.') with
  | _ :: _ :: _ => some (String.ofList (backwards.takeWhile (· != '.')).reverse)
  | _ => none

end FileTree

end UrlRouting
