import UrlRouting.Namespace.Basic

/-! Registries: namespaces by identifier, each created when it is first asked for. -/

namespace UrlRouting

structure Registry where
  namespaces : NameMap Namespace

namespace Registry

def empty : Registry := ⟨NameMap.empty⟩

instance : Inhabited Registry := ⟨empty⟩

def lookup? (r : Registry) (id : String) : Option Namespace := r.namespaces.get? id

def get (r : Registry) (id : String) : Namespace := (r.lookup? id).getD (Namespace.new id)

/-- Changes the namespace of an identifier where it stands, a new one if there is none. -/
def update (r : Registry) (id : String) (change : Namespace → Namespace) : Registry :=
  ⟨r.namespaces.insert id (change (r.get id))⟩

def insert (r : Registry) (ns : Namespace) : Registry := ⟨r.namespaces.insert ns.id ns⟩

def reset (r : Registry) (id : String) : Registry :=
  match r.lookup? id with
  | some ns => ⟨r.namespaces.insert id ns.reset⟩
  | none => r

def ids (r : Registry) : List String := r.namespaces.names

def size (r : Registry) : Nat := r.namespaces.size

end Registry

end UrlRouting
