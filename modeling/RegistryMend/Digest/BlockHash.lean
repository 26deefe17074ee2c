/-! # Hashing in blocks

A hash of this family compresses one block after the other into a state. The message is padded
with one set bit, then zeros, then its length in bits, so that it ends with a block. A hash is
given either for a whole message or step by step, as the bytes of the message arrive.
-/

namespace RegistryMend.Digest

/-- How a hash with states of type `σ` works. -/
structure BlockHash (σ : Type) where
  /-- The number of bytes in a block. -/
  blockSize : Nat
  /-- The number of bytes that hold the length of the message. -/
  lengthSize : Nat
  start : σ
  compress : σ → List UInt8 → σ
  output : σ → List UInt8

/-- The lowest `width` bytes of a number, most significant first. -/
def bigEndian : (width : Nat) → Nat → List UInt8
  | 0, _ => []
  | width + 1, n => bigEndian width (n / 256) ++ [UInt8.ofNat n]

/-- The number that bytes stand for, most significant first. -/
def ofBigEndian (bytes : List UInt8) : Nat :=
  bytes.foldl (fun n byte => n * 256 + byte.toNat) 0

/-- Cuts a list into pieces of a positive size, with a shorter one at the end if needed. -/
def chunks {α : Type} (size : Nat) (items : List α) : List (List α) :=
  if 0 < size ∧ items ≠ [] then items.take size :: chunks size (items.drop size) else []
termination_by items.length
decreasing_by
  have : items.length ≠ 0 := by simp_all
  simp only [List.length_drop]
  omega

/-- Nothing is lost when a list is cut into pieces. -/
theorem flatten_chunks {α : Type} {size : Nat} (positive : 0 < size) (items : List α) :
    (chunks size items).flatten = items := by
  fun_induction chunks size items with
  | case1 items _ ih => simp [ih]
  | case2 items stop =>
    have none_left : items = [] := Decidable.byContradiction fun some_left =>
      stop ⟨positive, some_left⟩
    simp [none_left]

theorem ne_nil_of_mem_chunks {α : Type} {size : Nat} {items piece : List α}
    (member : piece ∈ chunks size items) : piece ≠ [] := by
  fun_induction chunks size items with
  | case1 items going ih =>
    rcases List.mem_cons.mp member with rfl | later
    · have := going.1
      cases items with
      | nil => exact absurd rfl going.2
      | cons first rest =>
        cases size with
        | zero => contradiction
        | succ size => simp
    · exact ih later
  | case2 => simp at member

namespace BlockHash

variable {σ : Type}

/-- The bytes that follow a message of the given length. -/
def padding (hash : BlockHash σ) (length : Nat) : List UInt8 :=
  let used := (length + 1 + hash.lengthSize) % hash.blockSize
  0x80 :: List.replicate ((hash.blockSize - used) % hash.blockSize) 0 ++
    bigEndian hash.lengthSize (8 * length)

/-- The digest of a whole message. -/
def digest (hash : BlockHash σ) (message : List UInt8) : List UInt8 :=
  let padded := message ++ hash.padding message.length
  hash.output ((chunks hash.blockSize padded).foldl hash.compress hash.start)

/-- A hash under way: the state after the full blocks, and the bytes of the open block, last
first. -/
structure Progress (σ : Type) where
  state : σ
  block : List UInt8
  filled : Nat
  length : Nat

/-- Before the first byte. -/
def begin (hash : BlockHash σ) : Progress σ :=
  ⟨hash.start, [], 0, 0⟩

/-- Takes one byte of the message. -/
def push (hash : BlockHash σ) (progress : Progress σ) (byte : UInt8) : Progress σ :=
  let block := byte :: progress.block
  if progress.filled + 1 = hash.blockSize then
    ⟨hash.compress progress.state block.reverse, [], 0, progress.length + 1⟩
  else ⟨progress.state, block, progress.filled + 1, progress.length + 1⟩

/-- Takes a piece of the message. -/
def update (hash : BlockHash σ) (progress : Progress σ) (piece : List UInt8) : Progress σ :=
  piece.foldl hash.push progress

/-- The digest of all that was taken. -/
def finish (hash : BlockHash σ) (progress : Progress σ) : List UInt8 :=
  hash.output (hash.update progress (hash.padding progress.length)).state

@[simp] theorem update_nil (hash : BlockHash σ) (progress : Progress σ) :
    hash.update progress [] = progress := rfl

/-- Where a message is cut into pieces does not matter. -/
theorem update_append (hash : BlockHash σ) (progress : Progress σ) (first second : List UInt8) :
    hash.update progress (first ++ second) = hash.update (hash.update progress first) second :=
  List.foldl_append

end BlockHash

end RegistryMend.Digest
