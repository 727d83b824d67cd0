import UrlRouting.Namespace.Basic
import UrlRouting.Json.Write

/-! Route files: a namespace as it is written down. The routes are registered in their order. -/

namespace UrlRouting

structure RouteFile where
  mount : Option String
  scriptName : Option String
  routes : List Declaration
deriving DecidableEq, Inhabited

structure EntryError where
  index : Nat
  pattern : String
  cause : PatternError
deriving DecidableEq, Repr

def EntryError.message (e : EntryError) : String :=
  "route #" ++ toString e.index ++ " ('" ++ e.pattern ++ "') is invalid: " ++ e.cause.message

/-- How far a file has been applied: the namespace so far, what has been registered in order, and
the entry that stopped it, if one did. -/
structure Application where
  state : Namespace
  registered : List Namespace.Registration
  failure : Option EntryError

namespace RouteFile

def registerFrom (index : Nat) (ns : Namespace) : List Declaration → Application
  | [] => ⟨ns, [], none⟩
  | d :: rest =>
    match ns.register d with
    | .error cause => ⟨ns, [], some ⟨index, d.pattern, cause⟩⟩
    | .ok done =>
      let later := registerFrom (index + 1) done.state rest
      { later with registered := done :: later.registered }

def configure (f : RouteFile) (ns : Namespace) : Namespace :=
  let mounted := match f.mount with
    | some text => ns.setMount text
    | none => ns
  match f.scriptName with
  | some text => mounted.setScriptName text
  | none => mounted

/-- Applies a file to a namespace. Entries before one that fails stay registered. -/
def apply (f : RouteFile) (ns : Namespace) : Application :=
  registerFrom 0 (f.configure ns) f.routes

def applyToNew (f : RouteFile) : Application := f.apply (Namespace.new Namespace.defaultId)

def writeDeclaration (d : Declaration) : List Char :=
  Json.writeTable <|
    ("pattern", Json.writeText d.pattern) ::
    (d.aliasName.toList.map fun a => ("alias", Json.writeText a)) ++
    [("defaults", Json.writeSet d.defaults), ("validators", Json.writeTexts d.validators)]

def toJson (f : RouteFile) : String :=
  String.ofList <| Json.writeTable <|
    (f.mount.toList.map fun t => ("prefix", Json.writeText t)) ++
    (f.scriptName.toList.map fun t => ("script_name", Json.writeText t)) ++
    [("routes", Json.writeList (f.routes.map writeDeclaration))]

end RouteFile

end UrlRouting
