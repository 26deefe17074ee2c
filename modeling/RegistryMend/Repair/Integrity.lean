import RegistryMend.Digest.Algorithm
import RegistryMend.Repair.Work

/-! # Recalculating an integrity text

The content of a blob is hashed as it is read. If it cannot be read, this is reported and the
integrity is empty.
-/

namespace RegistryMend.Repair

open RegistryMend.Digest (Algorithm)
open RegistryMend.Storage (Blob Opening Stream)

/-- The integrity text for what an opening of a blob gives. -/
def integrityOf (tag : WideText) (opening : Opening) : Except FileFault WideText := do
  let stream ← opening
  let pieces ← stream.pieces
  return Digest.integrityText tag ((Algorithm.ofTag tag).digestPieces pieces)

/-- Hashes a blob anew, and keeps the tag as it is. -/
def recalculate {σ : Type} (asset : String) (blob : Blob) (tag : WideText) : Work σ WideText := do
  match integrityOf tag (← Work.openBlob blob) with
  | .ok integrity => return integrity
  | .error fault =>
    Work.report (.hashFailed asset (.file fault))
    return ""

end RegistryMend.Repair
