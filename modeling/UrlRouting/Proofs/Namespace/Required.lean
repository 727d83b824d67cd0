import UrlRouting.Proofs.Namespace.Built
import UrlRouting.Proofs.Percent.Octets
import UrlRouting.Proofs.Route.Captured

/-! Which required parameters a recognized URL supplies. What a slot has taken is kept without the
slashes at its ends, and a wildcard slot may take nothing but slashes where something follows it; all
others leave a value. -/

namespace UrlRouting

namespace Namespace
open Slash Percent

variable {ns : Namespace} {url path : String} {r : Route} {found : ParameterSet}

section

variable {d : Declaration} {texts : List (List (List Char))} {kind : SlotKind} {name : String}
  {x : List Char} (compiled : Route.Compiled d r) (here : ns.localPath? url.toList = some path.toList)
  (covers : Segment.Covers r.segments r.tailStart texts (unescape path.toList))
  (undefaulted : r.defaults.contains name = false) (taken : (name, x) ∈ Segment.taken r.segments texts)
include compiled here covers undefaulted taken

end

end Namespace

end UrlRouting
