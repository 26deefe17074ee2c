import RegistryMend.Storage.Tree
import RegistryMend.Text.Alphanumeric
import RegistryMend.Text.Blank

/-! # Blob files

The reference of a blob is made safe for use as a file name. The file lies in a directory named by
the first two characters of its name. References with the same name share one file.
-/

namespace RegistryMend.Storage

/-- Whether a character of a reference is kept in the file name. -/
def isSafe (c : Char) : Bool :=
  Text.isAlphanumeric c || c == '-' || c == '_' || c == '.'

/-- The file name for a reference: blanks around it are dropped, and characters that are not safe
become underscores. -/
def blobName (ref : String) : List Char :=
  (Text.trimBlanks ref.toList).map fun c => if isSafe c then c else '_'

/-- The path of the file for a reference below a directory. -/
def blobPath (directory : Path) (ref : String) : Path :=
  let name := blobName ref
  (directory.child (String.ofList (name.take 2))).child (String.ofList name)

/-- The directory of the blob files, as seen from the directory that holds it. -/
def blobDirectory : Path := ⟨.relative, ["blobs"]⟩

/-- The directory of all data. -/
def dataDirectory : String := "data"

/-- The names that lead to the file for a reference. -/
def blobNames (ref : String) : List String :=
  dataDirectory :: (blobPath blobDirectory ref).names

namespace Tree

/-- The content of the file for a reference, if there is one. -/
def readBlob (tree : Tree) (ref : String) : Except FileFault (Option Bytes) :=
  tree.readFile (blobNames ref)

/-- Writes the file for a reference into its directory, which is made if need be. -/
def writeBlob (tree : Tree) (ref : String) (content : Bytes) : Tree × Option FileFault :=
  let names := blobNames ref
  match tree.makeDirectories names.dropLast with
  | (made, some fault) => (made, some fault)
  | (made, none) =>
    match made.writeFile names content with
    | .ok written => (written, none)
    | .error fault => (made, some fault)

/-- Removes the file for a reference. -/
def removeBlob (tree : Tree) (ref : String) : Except FileFault Tree :=
  tree.removeFile (blobNames ref)

theorem readBlob_congr (tree : Tree) {ref other : String} (same : blobName ref = blobName other) :
    tree.readBlob ref = tree.readBlob other := by
  simp only [readBlob, blobNames, blobPath, same]

end Tree

end RegistryMend.Storage
