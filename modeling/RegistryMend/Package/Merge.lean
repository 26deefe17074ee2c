import RegistryMend.Json.Display
import RegistryMend.Package.Root

/-! # Laying one document over another

A value laid over a stored one replaces it, except that objects are laid over objects member by
member. The stored tag `latest` wins over the one of the document on top, unless it is empty.
-/

namespace RegistryMend.Package

open RegistryMend.Json (Members Value)

mutual

/-- The value that stands after one is laid over what was stored. -/
def overlayValue (stored : Option Value) : Value → Value
  | .obj top =>
    match stored with
    | some (.obj below) => .obj (overlay below top)
    | _ => .obj top
  | value => value

/-- Lays members over stored ones. -/
def overlay (below : Members) : List (WideText × Value) → Members
  | [] => below
  | (key, value) :: rest => overlay (below.insert key (overlayValue (below.find? key) value)) rest

end

/-- The text of the tag `latest` of a document, empty if it is not given. -/
def latestTag (root : Root) : WideText :=
  (Members.child Root.tagsKey root).givenText Root.latestKey

/-- The tag that is kept: the stored one unless it is empty. -/
def keptTag (stored fragment : WideText) : WideText :=
  if stored = "" then fragment else stored

/-- Lays a fragment over a stored root and keeps the stored tag `latest` if there is one. -/
def merge (stored fragment : Root) : Root :=
  let merged := overlay stored fragment
  let latest := keptTag (latestTag stored) (latestTag fragment)
  if latest = "" then merged
  else Members.updateChild Root.tagsKey (Members.insert Root.latestKey (.str latest)) merged

end RegistryMend.Package
