import UrlRouting.FileTree
import UrlRouting.RouteFile.Format

/-! Loading of route files into new namespaces. -/

namespace UrlRouting

inductive LoadError where
  | unreadable (path : String) (cause : FileError)
  /-- The extension belongs to no format. This is found before the file is looked for. -/
  | unsupported (path : String)
  | malformed (format : TextFormat)
  | entry (e : EntryError)
deriving DecidableEq, Repr

namespace LoadError

/-- The message. Where a text is refused by its format, the place and the reason would follow behind a colon;
they are left out, as the readers of the formats give none. -/
def message : LoadError → String
  | unreadable path cause => "failed to read route file " ++ path ++ ": " ++ cause.message
  | unsupported path => "unsupported route file extension: " ++ path
  | malformed format => "invalid " ++ format.name ++ " route file"
  | entry e => e.message

def cause? : LoadError → Option String
  | unreadable _ cause => some cause.message
  | entry e => some e.cause.message
  | unsupported _ => none
  | malformed _ => none

/-- The message and after it the cause, although the message may have told it. -/
def chain (e : LoadError) : String :=
  match e.cause? with
  | some cause => e.message ++ ": " ++ cause
  | none => e.message

end LoadError

namespace RouteFile

def read (files : FileReader) (path : String) : Except LoadError RouteFile :=
  match (FileTree.extension? path).bind TextFormat.ofExtension? with
  | none => .error (.unsupported path)
  | some format =>
    match files path with
    | .error cause => .error (.unreadable path cause)
    | .ok text =>
      match RouteFile.ofText? format text with
      | some file => .ok file
      | none => .error (.malformed format)

end RouteFile

def Application.result (a : Application) : Except LoadError Namespace :=
  match a.failure with
  | some e => .error (.entry e)
  | none => .ok a.state

def Namespace.load (files : FileReader) (path : String) : Except LoadError Namespace := do
  let file ← RouteFile.read files path
  file.applyToNew.result

end UrlRouting
