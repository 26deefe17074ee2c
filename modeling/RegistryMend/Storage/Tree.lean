import RegistryMend.Assoc
import RegistryMend.Storage.Blob
import RegistryMend.Storage.Path

/-! # Trees of files

A tree holds files and directories, each at its place. Names are followed one after the other from
the top of the tree, and each but the last has to lead to a directory: where one does not, nothing
is found behind it.

Main statement: `walk_eq_resolve`, names that lead anywhere lead to the place that is told from
them alone.
-/

namespace RegistryMend.Storage

/-- What is at a place. -/
inductive Node where
  | file (content : Bytes)
  | directory
deriving DecidableEq, Repr

/-- A place in a tree: the names from its top. Places above the top are double dots. -/
abbrev Place := List String

/-- The most bytes in a name. -/
def longestName : Nat := 255

/-- The most bytes in the text of a path. -/
def longestPath : Nat := 4095

/-- Files and directories by place. -/
structure Tree where
  nodes : List (Place × Node) := []
deriving DecidableEq, Repr

namespace Tree

/-- What is at a place. The top of the tree is a directory, and so is all above it. -/
def node? (tree : Tree) (place : Place) : Option Node :=
  if place.all (· = "..") then some .directory else tree.nodes.lookup place

/-- Puts a file or a directory at a place. -/
def put (tree : Tree) (place : Place) (node : Node) : Tree :=
  ⟨Assoc.insert place node tree.nodes⟩

/-- Leaves nothing at a place. -/
def erase (tree : Tree) (place : Place) : Tree :=
  ⟨tree.nodes.filter fun entry => entry.1 ≠ place⟩

/-- Follows a name from a place, which must be a directory. -/
def follow (tree : Tree) (place : Place) (name : String) : Except FileFault Place :=
  match tree.node? place with
  | none => .error .missing
  | some (.file _) => .error .notDirectory
  | some .directory =>
    if longestName < name.utf8ByteSize then .error .nameTooLong else .ok (Path.step place name)

/-- The place that names lead to. -/
def walk (tree : Tree) (names : List String) : Except FileFault Place :=
  if longestPath < ("/".intercalate names).utf8ByteSize then .error .nameTooLong
  else names.foldlM tree.follow []

/-- What names lead to. Nothing is found behind what is missing or no directory. -/
def find? (tree : Tree) (names : List String) : Except FileFault (Option Node) :=
  match tree.walk names with
  | .ok place => .ok (tree.node? place)
  | .error .missing | .error .notDirectory => .ok none
  | .error fault => .error fault

/-- The content of the file that names lead to, if they lead to one. -/
def readFile (tree : Tree) (names : List String) : Except FileFault (Option Bytes) :=
  match tree.find? names with
  | .ok (some (.file content)) => .ok (some content)
  | .ok _ => .ok none
  | .error fault => .error fault

/-- Writes the file that names lead to. -/
def writeFile (tree : Tree) (names : List String) (content : Bytes) : Except FileFault Tree :=
  match tree.walk names with
  | .error fault => .error fault
  | .ok place =>
    match tree.node? place with
    | some .directory => .error .isDirectory
    | _ => .ok (tree.put place (.file content))

/-- Removes the file that names lead to. -/
def removeFile (tree : Tree) (names : List String) : Except FileFault Tree :=
  match tree.walk names with
  | .error fault => .error fault
  | .ok place =>
    match tree.node? place with
    | none => .error .missing
    | some .directory => .error .isDirectory
    | some (.file _) => .ok (tree.erase place)

/-- Makes a directory at a place if nothing is there, and those that names lead to from it. What was
made before a fault stays. -/
def makeFrom (tree : Tree) (place : Place) : List String → Tree × Option FileFault
  | [] =>
    match tree.node? place with
    | none => (tree.put place .directory, none)
    | some .directory => (tree, none)
    | some (.file _) => (tree, some .alreadyExists)
  | name :: rest =>
    let made := if (tree.node? place).isNone then tree.put place .directory else tree
    match made.follow place name with
    | .error fault => (made, some fault)
    | .ok next => makeFrom made next rest

/-- Makes the directory that names lead to, and those above it. -/
def makeDirectories (tree : Tree) (names : List String) : Tree × Option FileFault :=
  tree.makeFrom [] names

/-- A place that is neither the top of a tree nor above it. -/
def IsBelow (place : Place) : Prop :=
  place.all (· = "..") = false

@[simp] theorem node?_put_self (tree : Tree) {place : Place} (node : Node)
    (below : IsBelow place) : (tree.put place node).node? place = some node := by
  have inside : place.all (· = "..") = false := below
  simp [node?, put, inside]

theorem node?_put_of_ne (tree : Tree) {place other : Place} (node : Node) (differ : other ≠ place) :
    (tree.put place node).node? other = tree.node? other := by
  simp [node?, put, Assoc.lookup_insert_of_ne differ]

theorem foldlM_follow_eq (tree : Tree) {names : List String} {start place : Place}
    (leads : names.foldlM tree.follow start = .ok place) : place = names.foldl Path.step start := by
  induction names generalizing start with
  | nil => exact (Except.ok.inj leads).symm
  | cons name rest ih =>
    simp only [List.foldlM_cons, follow] at leads
    split at leads
    · simp only [bind, Except.bind, reduceCtorEq] at leads
    · simp only [bind, Except.bind, reduceCtorEq] at leads
    · split at leads
      · simp only [bind, Except.bind, reduceCtorEq] at leads
      · exact ih leads

/-- Names that lead anywhere lead to their own place. -/
theorem walk_eq_resolve (tree : Tree) {names : List String} {place : Place}
    (leads : tree.walk names = .ok place) : place = Path.resolve names := by
  unfold walk at leads
  split at leads
  · simp only [reduceCtorEq] at leads
  · exact foldlM_follow_eq tree leads

end Tree

end RegistryMend.Storage
