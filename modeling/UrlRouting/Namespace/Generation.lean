import UrlRouting.Namespace.Basic

/-! Generation of URLs: the first route that accepts the parameters renders them. -/

namespace UrlRouting

/-- What is put after a path: query pairs, and a fragment unless it is empty. -/
structure Suffix where
  query : List (String × String)
  fragment : Option String
deriving DecidableEq, Repr, Inhabited

namespace Suffix

def none : Suffix := ⟨[], Option.none⟩

def render (s : Suffix) : List Char :=
  Percent.encodeQuery s.query ++
    match s.fragment with
    | some fragment => if fragment = "" then [] else '#' :: fragment.toList
    | Option.none => []

end Suffix

structure Generated where
  route : Route
  url : String

namespace Namespace

def embed (ns : Namespace) (path : List Char) (suffix : Suffix) : List Char :=
  ns.scriptName.toList ++ ns.mount.toList ++ path ++ suffix.render

def assemble (ns : Namespace) (route : Route) (accepted : ParameterSet) (suffix : Suffix) :
    Generated :=
  ⟨route, String.ofList (ns.embed (route.render accepted) suffix)⟩

def firstAccepting? (ns : Namespace) (aliasName : Option String) (params : ParameterSet)
    (suffix : Suffix) : Option Generated :=
  (ns.table.routes.filter fun r => aliasName.all fun wanted => r.aliasName == some wanted).findSome?
    fun r => (r.accept params).map fun accepted => ns.assemble r accepted suffix

/-- The root route, which without parameters takes precedence wherever it stands. -/
def rootFor? (ns : Namespace) (params : ParameterSet) : Option Route :=
  if params.isEmpty then ns.table.get? "/" else none

def generate (ns : Namespace) (params : ParameterSet) (suffix : Suffix) : Option Generated :=
  match ns.rootFor? params with
  | some root => some (ns.assemble root NameMap.empty suffix)
  | none => ns.firstAccepting? none params suffix

def generateByAlias (ns : Namespace) (aliasName : String) (params : ParameterSet)
    (suffix : Suffix) : Option Generated :=
  ns.firstAccepting? (some aliasName) params suffix

end Namespace

end UrlRouting
