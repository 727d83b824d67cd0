import UrlRouting.Namespace.Basic

/-! Recognition of URLs. A path is first held to the shapes of all routes. Of those whose shape it
has, the first whose strict matcher accepts it decides; if none does, the URL is invalid rather than
unknown. -/

namespace UrlRouting

inductive Recognition where
  | matched (route : Route) (path : String) (params : ParameterSet)
  /-- The first of a number of routes that have the shape of the path. -/
  | invalid (route : Route) (path : String) (candidates : Nat)
  | unknown (path : String)
  /-- The URL does not lie under the mount point. -/
  | outside

def Recognition.invalidMessage (route : Route) (url : String) : String :=
  "route '" ++ route.pattern ++ "' matches the shape of '" ++ url ++
    "' but its values are invalid"

namespace Namespace

def pathOf (url : List Char) : List Char := url.takeWhile fun c => c != '?' && c != '#'

/-- What follows `head` in a text, if `head` begins it and ends where a piece ends. -/
def stripPieces? (head text : List Char) : Option (List Char) :=
  if head.isPrefixOf text then
    let rest := text.drop head.length
    if rest.isEmpty || rest.head? == some '/' then some rest else none
  else none

def stripScript (script path : List Char) : List Char :=
  let script := Slash.trim script
  if script.isEmpty then path
  else
    match stripPieces? script (path.drop 1) with
    | some rest => Slash.rooted rest
    | none => path

/-- Takes the mount point off a path; none if the path does not lie under it. -/
def stripMount (mount path : List Char) : Option (List Char) :=
  if mount.isEmpty then some path
  else (stripPieces? mount path).map fun rest => if rest.isEmpty then ['/'] else rest

def localPath? (ns : Namespace) (url : List Char) : Option (List Char) :=
  stripMount ns.mount.toList (stripScript ns.scriptName.toList (Slash.rooted (pathOf url)))

def firstCapture? (path : List Char) (candidates : List Route) : Option (Route × ParameterSet) :=
  candidates.findSome? fun r => (r.capture path).map fun params => (r, params)

def recognize (ns : Namespace) (url : String) : Recognition :=
  match ns.localPath? url.toList with
  | none => .outside
  | some path =>
    let decoded := Percent.unescape path
    let candidates := ns.table.routes.filter (·.matchesShape decoded)
    match firstCapture? decoded candidates with
    | some (route, params) => .matched route (String.ofList path) params
    | none =>
      match candidates with
      | first :: _ => .invalid first (String.ofList path) candidates.length
      | [] => .unknown (String.ofList path)

end Namespace

end UrlRouting
