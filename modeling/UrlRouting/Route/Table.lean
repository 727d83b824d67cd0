import UrlRouting.Route.Basic

/-! Tables of routes in order of registration. A route takes the place of an earlier one with the
same pattern, which is found by an index of the places of patterns. -/

namespace UrlRouting

/-- Routes in order, and the place in this order of the route with each pattern. -/
structure RouteTable where
  routes : List Route
  places : NameMap Nat

namespace RouteTable

def empty : RouteTable := ⟨[], NameMap.empty⟩

instance : Inhabited RouteTable := ⟨empty⟩

def get? (t : RouteTable) (pattern : String) : Option Route :=
  (t.places.get? pattern).bind fun place => t.routes[place]?

def contains (t : RouteTable) (pattern : String) : Bool := t.places.contains pattern

structure Insertion where
  table : RouteTable
  replaced : Bool

/-- Puts a route in the place of the one with its pattern, or else last. -/
def put (t : RouteTable) (route : Route) : Insertion :=
  match t.places.get? route.pattern with
  | some place => ⟨{ t with routes := t.routes.set place route }, true⟩
  | none => ⟨⟨t.routes ++ [route], t.places.insert route.pattern t.routes.length⟩, false⟩

def insert (t : RouteTable) (route : Route) : RouteTable := (t.put route).table

def clear (_ : RouteTable) : RouteTable := ⟨[], NameMap.empty⟩

def byAlias? (t : RouteTable) (aliasName : String) : Option Route :=
  t.routes.find? (·.aliasName == some aliasName)

def size (t : RouteTable) : Nat := t.routes.length

def isEmpty (t : RouteTable) : Bool := t.routes.isEmpty

end RouteTable

end UrlRouting
