import RegistryMend.Digest.Algorithm

/-! # Hashing as the bytes arrive

A hash under way has compressed the full blocks and keeps the bytes of the open one. When the
padding has filled the last block, all blocks of the message are compressed in their order, so that
the digest is that of the whole message, in whatever pieces it arrived.
-/

namespace RegistryMend.Digest

theorem length_bigEndian (width n : Nat) : (bigEndian width n).length = width := by
  induction width generalizing n with
  | zero => rfl
  | succ width ih => rw [bigEndian, List.length_append, ih, List.length_singleton]

/-- A full block is the first piece, and the rest is cut on its own. -/
theorem chunks_append {α : Type} {size : Nat} (positive : 0 < size) {block : List α}
    (full : block.length = size) (rest : List α) :
    chunks size (block ++ rest) = block :: chunks size rest := by
  have some_ : block ++ rest ≠ [] := by
    intro none_
    rw [(List.append_eq_nil_iff.mp none_).1, List.length_nil] at full
    omega
  rw [chunks, if_pos ⟨positive, some_⟩, List.take_left' full, List.drop_left' full]

namespace BlockHash

variable {σ : Type} (hash : BlockHash σ)

/-- The open block is shorter than a full one, and its length is known. -/
structure Progress.Open (progress : Progress σ) : Prop where
  filled : progress.filled = progress.block.length
  short : progress.block.length < hash.blockSize

/-- What fills the open block to a whole number of blocks leaves all of them compressed. -/
theorem state_update {progress : Progress σ} (open_ : progress.Open hash) {bytes : List UInt8}
    (whole : (progress.block.length + bytes.length) % hash.blockSize = 0) :
    (hash.update progress bytes).state =
      (chunks hash.blockSize (progress.block.reverse ++ bytes)).foldl hash.compress
        progress.state := by
  have positive : 0 < hash.blockSize := Nat.zero_lt_of_lt open_.short
  induction bytes generalizing progress with
  | nil =>
    rw [List.length_nil, Nat.add_zero, Nat.mod_eq_of_lt open_.short, List.length_eq_zero_iff] at whole
    rw [whole, List.reverse_nil, List.nil_append, chunks, if_neg (by simp), update_nil,
      List.foldl_nil]
  | cons byte rest ih =>
    have bytes : progress.block.reverse ++ byte :: rest =
        (byte :: progress.block).reverse ++ rest := by simp
    rw [update, List.foldl_cons, ← update, push, bytes]
    rw [List.length_cons] at whole
    split
    · next last =>
      rw [open_.filled] at last
      have full : (byte :: progress.block).reverse.length = hash.blockSize := by simpa using last
      have opened : (Progress.mk (hash.compress progress.state (byte :: progress.block).reverse) [] 0
          (progress.length + 1)).Open hash := ⟨rfl, positive⟩
      rw [chunks_append positive full, List.foldl_cons, ih opened]
      · rfl
      · rw [← Nat.add_assoc, Nat.add_right_comm, last, Nat.add_mod_left] at whole
        rwa [List.length_nil, Nat.zero_add]
    · next inner =>
      rw [open_.filled] at inner
      rw [ih ⟨by rw [open_.filled]; rfl, ?_⟩]
      · rw [List.length_cons]
        rwa [Nat.add_right_comm, Nat.add_assoc]
      · have short := open_.short
        rw [List.length_cons]
        omega

/-- The padding fills the last block. -/
theorem length_padding (positive : 0 < hash.blockSize) (length : Nat) :
    (length + (hash.padding length).length) % hash.blockSize = 0 := by
  let used := (length + 1 + hash.lengthSize) % hash.blockSize
  have below : used < hash.blockSize := Nat.mod_lt _ positive
  have filled : (used + (hash.blockSize - used) % hash.blockSize) % hash.blockSize = 0 := by
    rcases Nat.eq_zero_or_pos used with none_ | some_
    · rw [none_, Nat.sub_zero, Nat.mod_self]
      rfl
    · rw [Nat.mod_eq_of_lt (by omega : hash.blockSize - used < hash.blockSize),
        Nat.add_sub_cancel' (Nat.le_of_lt below), Nat.mod_self]
  have whole : length + (hash.padding length).length =
      length + 1 + hash.lengthSize + (hash.blockSize - used) % hash.blockSize := by
    simp only [padding, List.length_append, List.length_cons, List.length_replicate,
      length_bigEndian, used]
    omega
  rw [whole, ← Nat.mod_add_mod]
  exact filled

/-- A hash under way counts the bytes. -/
theorem length_update (progress : Progress σ) (bytes : List UInt8) :
    (hash.update progress bytes).length = progress.length + bytes.length := by
  induction bytes generalizing progress with
  | nil => rfl
  | cons byte rest ih =>
    rw [update, List.foldl_cons, ← update, ih, push]
    split <;> simp only [List.length_cons] <;> omega

/-- A message that arrives byte by byte has the digest of the whole. -/
theorem finish_update (positive : 0 < hash.blockSize) (message : List UInt8) :
    hash.finish (hash.update hash.begin message) = hash.digest message := by
  have length : (hash.update hash.begin message).length = message.length :=
    (hash.length_update ..).trans (Nat.zero_add _)
  have padded := hash.length_padding positive message.length
  rw [← List.length_append] at padded
  have opened : hash.begin.Open hash := ⟨rfl, positive⟩
  rw [finish, digest, length, ← update_append, hash.state_update opened]
  · rfl
  · exact (congrArg (· % hash.blockSize) (Nat.zero_add _)).trans padded

/-- Pieces are taken one after the other as all of their bytes. -/
theorem foldl_update (progress : Progress σ) (pieces : List (List UInt8)) :
    pieces.foldl hash.update progress = hash.update progress pieces.flatten := by
  induction pieces generalizing progress with
  | nil => rfl
  | cons piece rest ih => rw [List.foldl_cons, ih, List.flatten_cons, update_append]

end BlockHash

/-- A message in pieces has the digest of the whole. -/
theorem Algorithm.digestPieces_eq (algorithm : Algorithm) (pieces : List (List UInt8)) :
    algorithm.digestPieces pieces = algorithm.digest pieces.flatten := by
  cases algorithm with
  | sha1 =>
    rw [digestPieces, BlockHash.foldl_update]
    exact BlockHash.finish_update _ (by decide) _
  | sha512 =>
    rw [digestPieces, BlockHash.foldl_update]
    exact BlockHash.finish_update _ (by decide) _

end RegistryMend.Digest
