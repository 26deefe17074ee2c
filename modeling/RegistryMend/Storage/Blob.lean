import RegistryMend.Digest.BlockHash
import RegistryMend.Failure

/-! # Blobs

A blob is content with a recorded checksum and size. Its content is read from a stream, and each
opening of the blob gives a new one. Reading may fail at any point.
-/

namespace RegistryMend.Storage

/-- Content. -/
abbrev Bytes := List UInt8

/-- What the successive reads of a stream give. The content ends at the first read that gives no
bytes, and at the end of the list. -/
abbrev Stream := List (Except FileFault Bytes)

namespace Stream

/-- How many bytes a read asks for. -/
def readSize : Nat := 65536

/-- The stream of sound content. -/
def ofBytes (content : Bytes) : Stream :=
  (Digest.chunks readSize content).map .ok

/-- The pieces up to the end of the content, if no read before it fails. -/
def pieces : Stream → Except FileFault (List Bytes)
  | [] => .ok []
  | .error fault :: _ => .error fault
  | .ok [] :: _ => .ok []
  | .ok piece :: rest => (pieces rest).map (piece :: ·)

/-- The whole content, if no read fails. -/
def content (stream : Stream) : Except FileFault Bytes :=
  stream.pieces.map List.flatten

/-- Sound pieces, none of them empty, are all read. -/
theorem pieces_map_ok {pieces : List Bytes} (full : ∀ piece ∈ pieces, piece ≠ []) :
    Stream.pieces (pieces.map .ok) = .ok pieces := by
  induction pieces with
  | nil => rfl
  | cons piece rest ih =>
    have later := ih fun other member => full other (List.mem_cons_of_mem _ member)
    cases piece with
    | nil => exact absurd rfl (full [] (List.mem_cons_self ..))
    | cons byte bytes => simp [Stream.pieces, later, Except.map]

/-- The stream of sound content gives the content. -/
@[simp] theorem content_ofBytes (bytes : Bytes) : (ofBytes bytes).content = .ok bytes := by
  have read := pieces_map_ok fun piece (member : piece ∈ Digest.chunks readSize bytes) =>
    Digest.ne_nil_of_mem_chunks member
  have whole := Digest.flatten_chunks (by decide : 0 < readSize) bytes
  simp [content, ofBytes, read, whole, Except.map]

end Stream

/-- What an opening of a blob gives. -/
abbrev Opening := Except FileFault Stream

/-- A blob. Openings are numbered from zero. -/
structure Blob where
  ref : String
  sha1 : String
  size : Int
  opening : Nat → Opening

end RegistryMend.Storage
