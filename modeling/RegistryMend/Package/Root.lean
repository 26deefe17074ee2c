import RegistryMend.Json.Value

/-! # Package roots

A package root is the document of one package. It lists every published version with the facts
about its tarball under `dist`:

    "_id", "name", "dist-tags": latest, "versions": version: "dist": shasum, integrity, tarball

Documents come in any shape. Where an object is expected, all else counts as an empty object:
`child` looks at it that way, and `updateChild` puts an object in its place.
-/

namespace RegistryMend.Json.Members

/-- The object under a key, empty if there is none. -/
def child (key : WideText) (members : Members) : Members :=
  ((members.find? key).bind Value.object?).getD []

/-- Changes the object under a key, which stands there afterwards. -/
def updateChild (key : WideText) (change : Members → Members) (members : Members) : Members :=
  members.insert key (.obj (change (members.child key)))

@[simp] theorem child_updateChild_self (key : WideText) (change : Members → Members)
    (members : Members) :
    (members.updateChild key change).child key = change (members.child key) := by
  simp [child, updateChild, Value.object?]

theorem child_updateChild_of_ne {key other : WideText} (differ : other ≠ key)
    (change : Members → Members) (members : Members) :
    (members.updateChild key change).child other = members.child other := by
  simp [child, updateChild, Assoc.lookup_insert_of_ne differ]

end RegistryMend.Json.Members

namespace RegistryMend.Package

open RegistryMend.Json (Members Value)

/-- The document of a package. -/
abbrev Root := Members

namespace Root

def idKey : String := "_id"
def revisionKey : String := "_rev"
def nameKey : String := "name"
def versionKey : String := "version"
def tagsKey : String := "dist-tags"
def latestKey : String := "latest"
def versionsKey : String := "versions"
def distKey : String := "dist"
def shasumKey : String := "shasum"
def integrityKey : String := "integrity"
def tarballKey : String := "tarball"

/-- What a document says about the tarball of a version. -/
def dist (version : WideText) (root : Root) : Members :=
  ((Members.child versionsKey root).child version).child distKey

/-- Changes what a document says about the tarball of a version. -/
def updateDist (version : WideText) (change : Members → Members) (root : Root) : Root :=
  Members.updateChild versionsKey
    (Members.updateChild version (Members.updateChild distKey change)) root

/-- A text among the facts about the tarball of a version. -/
def distText? (version key : WideText) (root : Root) : Option WideText :=
  ((dist version root).find? key).bind Value.string?

@[simp] theorem dist_updateDist_self (version : WideText) (change : Members → Members)
    (root : Root) : dist version (updateDist version change root) = change (dist version root) := by
  simp [dist, updateDist]

end Root

end RegistryMend.Package
