import UrlRouting.Route.Table

/-! Namespaces: a table of routes, a mount point that all its paths share, and a script name that
precedes it where the server does not rewrite its paths. -/

namespace UrlRouting

structure Namespace where
  id : String
  mount : String
  scriptName : String
  table : RouteTable

namespace Namespace

def defaultId : String := "__default__"

def new (id : String) : Namespace := ⟨id, "", "", RouteTable.empty⟩

instance : Inhabited Namespace := ⟨new defaultId⟩

structure Registration where
  state : Namespace
  route : Route
  replaced : Bool

def register (ns : Namespace) (d : Declaration) : Except PatternError Registration :=
  (Route.compile d).map fun route =>
    let done := ns.table.put route
    ⟨{ ns with table := done.table }, route, done.replaced⟩

/-- Sets the mount point, kept with one leading slash and no trailing one, or empty. -/
def setMount (ns : Namespace) (text : String) : Namespace :=
  let trimmed := Slash.trim text.toList
  { ns with mount := if trimmed.isEmpty then "" else String.ofList ('/' :: trimmed) }

def setScriptName (ns : Namespace) (text : String) : Namespace := { ns with scriptName := text }

/-- Forgets the routes and the mount point; the script name stays. -/
def reset (ns : Namespace) : Namespace := { ns with mount := "", table := ns.table.clear }

/-- The route under a pattern, however many slashes it is given with at its ends. -/
def byPattern? (ns : Namespace) (pattern : String) : Option Route :=
  ns.table.get? (Pattern.normalize pattern)

def listRoute (r : Route) : String :=
  "[route] " ++ r.pattern ++ " alias=" ++ r.aliasName.getD "-" ++ " required=" ++
    Quoted.set r.required ++ " defaults=" ++ r.defaults.described ++ "\n"

def listing (ns : Namespace) : String :=
  "[routes] namespace=" ++ ns.id ++ " prefix=" ++ Quoted.quote ns.mount ++ " script_name=" ++
    Quoted.quote ns.scriptName ++ " count=" ++ toString ns.table.size ++ "\n" ++
    String.join (ns.table.routes.map listRoute)

end Namespace

end UrlRouting
