import Mathlib.Data.List.Basic
import RegistryMend.Proofs.Archive.Gzip

/-! # Files of stored blocks

A compressed file may hold its data as it is, in blocks of less than 65536 bytes. Such a file is
intact, so every data has an intact file.
-/

namespace RegistryMend.Archive

open RegistryMend.Digest (crc32)

/-! ## Numbers in bytes -/

/-- The bytes of a number, least significant first. -/
def littleEndian : (count : Nat) → Nat → List UInt8
  | 0, _ => []
  | count + 1, n => UInt8.ofNat n :: littleEndian count (n / 256)

@[simp] theorem length_littleEndian (count n : Nat) : (littleEndian count n).length = count := by
  induction count generalizing n with
  | zero => rfl
  | succ count ih => rw [littleEndian, List.length_cons, ih]

theorem ofLittleEndian_littleEndian (count n : Nat) :
    ofLittleEndian (littleEndian count n) = n % 256 ^ count := by
  induction count generalizing n with
  | zero => rw [littleEndian, ofLittleEndian, Nat.pow_zero, Nat.mod_one]
  | succ count ih =>
    rw [littleEndian, ofLittleEndian, ih, UInt8.toNat_ofNat', Nat.pow_succ 256 count,
      Nat.mul_comm (256 ^ count), Nat.mod_mul]

namespace Decoder

/-- A number within a byte. -/
theorem number_within {used width : Nat} (byte : UInt8) (rest : List UInt8) (partly : used < 8)
    (fits : used + width ≤ 8) :
    number width ⟨byte :: rest, used⟩ = .ok (byte.toNat / 2 ^ used % 2 ^ width,
      if used + width = 8 then ⟨rest, 0⟩ else ⟨byte :: rest, used + width⟩) := by
  induction width generalizing used with
  | zero =>
    rw [if_neg (by omega), Nat.pow_zero, Nat.mod_one]
    rfl
  | succ width ih =>
    have low : bit ⟨byte :: rest, used⟩ = .ok (byte.toNat / 2 ^ used % 2,
        if used = 7 then ⟨rest, 0⟩ else ⟨byte :: rest, used + 1⟩) := by
      rw [← Nat.shiftRight_eq_div_pow]
      rfl
    have value : byte.toNat / 2 ^ used % 2 ^ (width + 1) =
        byte.toNat / 2 ^ used % 2 + 2 * (byte.toNat / 2 ^ (used + 1) % 2 ^ width) := by
      rw [Nat.pow_succ 2 width, Nat.mul_comm _ 2, Nat.mod_mul, Nat.div_div_eq_div_mul, Nat.pow_succ]
    rw [number, bind_apply, low]
    dsimp only
    by_cases last : used = 7
    · have nothing : width = 0 := by omega
      subst last nothing
      rw [if_pos rfl, if_pos rfl, value, Nat.pow_zero, Nat.mod_one]
      rfl
    · rw [if_neg last, bind_apply, ih (by omega) (by omega), value]
      dsimp only
      rw [Nat.add_assoc, Nat.add_comm 1 width]
      rfl

theorem number_add (first second : Nat) :
    number (first + second) = (do
      let low ← number first
      let high ← number second
      return low + 2 ^ first * high) := by
  induction first with
  | zero =>
    have same : (fun high => (pure (0 + 2 ^ 0 * high) : Decoder Nat)) = pure :=
      funext fun high => by rw [Nat.pow_zero, Nat.one_mul, Nat.zero_add]
    rw [Nat.zero_add, number, pure_bind, same, bind_pure]
  | succ first ih =>
    rw [Nat.succ_add, number, ih, number]
    simp only [bind_assoc, pure_bind]
    refine congrArg _ (funext fun low => congrArg _ (funext fun middle =>
      congrArg _ (funext fun high => congrArg _ ?_)))
    rw [Nat.pow_succ, Nat.mul_add, Nat.mul_comm (2 ^ first) 2, Nat.mul_assoc, Nat.add_assoc]

/-- A number of two whole bytes. -/
theorem number_littleEndian (n : Nat) (rest : List UInt8) :
    number 16 ⟨littleEndian 2 n ++ rest, 0⟩ = .ok (n % 65536, ⟨rest, 0⟩) := by
  have value : (UInt8.ofNat n).toNat / 2 ^ 0 % 2 ^ 8 +
      2 ^ 8 * ((UInt8.ofNat (n / 256)).toNat / 2 ^ 0 % 2 ^ 8) = n % 65536 := by
    simp only [UInt8.toNat_ofNat', Nat.pow_zero, Nat.div_one]
    omega
  rw [show 16 = 8 + 8 from rfl, number_add, bind_apply]
  simp only [littleEndian, List.cons_append, List.nil_append]
  rw [number_within _ _ (by decide) (by decide)]
  dsimp only
  rw [if_pos rfl, bind_apply, number_within _ _ (by decide) (by decide), ← value]
  rfl

end Decoder

/-! ## Blocks -/

/-- The first byte of a block that holds bytes as they are. -/
def storedMark (isLast : Bool) : UInt8 :=
  if isLast then 1 else 0

/-- A block that holds bytes as they are. -/
def storedBlock (isLast : Bool) (piece : List UInt8) : List UInt8 :=
  storedMark isLast ::
    (littleEndian 2 piece.length ++ (littleEndian 2 (65535 - piece.length) ++ piece))

theorem blockHeader_storedBlock {piece : List UInt8} (isLast : Bool) (rest : List UInt8)
    (short : piece.length < 65536) :
    Decoder.blockHeader ⟨storedBlock isLast piece ++ rest, 0⟩ =
      .ok (if piece.length = 0 then Block.behind isLast else .stored piece.length isLast,
        ⟨piece ++ rest, 0⟩) := by
  have first (tail : List UInt8) : Decoder.bit ⟨storedMark isLast :: tail, 0⟩ =
      .ok (if isLast then 1 else 0, ⟨storedMark isLast :: tail, 1⟩) := by
    cases isLast <;> rfl
  have kind (tail : List UInt8) : Decoder.number 2 ⟨storedMark isLast :: tail, 1⟩ =
      .ok (0, ⟨storedMark isLast :: tail, 3⟩) := by
    have none_ : (storedMark isLast).toNat / 2 ^ 1 % 2 ^ 2 = 0 := by
      cases isLast <;> rfl
    rw [Decoder.number_within _ _ (by decide) (by decide), none_]
    rfl
  have aligned (tail : List UInt8) :
      Decoder.align ⟨storedMark isLast :: tail, 3⟩ = .ok ((), ⟨tail, 0⟩) := rfl
  have last : ((if isLast then 1 else 0) == 1) = isLast := by
    cases isLast <;> rfl
  rw [storedBlock, List.cons_append, List.append_assoc, List.append_assoc, Decoder.blockHeader,
    Decoder.bind_apply, first]
  dsimp only
  rw [Decoder.bind_apply, kind]
  change (Decoder.align >>= fun _ => _) _ = _
  rw [Decoder.bind_apply, aligned]
  dsimp only
  rw [Decoder.bind_apply, Decoder.number_littleEndian]
  dsimp only
  rw [Decoder.bind_apply, Decoder.number_littleEndian]
  dsimp only
  rw [Nat.mod_eq_of_lt short, Nat.mod_eq_of_lt (by omega)]
  have whole : (piece.length + (65535 - piece.length) == 65535) = true := by
    rw [beq_iff_eq]
    omega
  rw [whole, last]
  by_cases none_ : piece.length = 0
  · rw [if_pos none_, if_pos none_]
    cases isLast <;> rfl
  · rw [if_neg none_, if_neg none_]
    rfl

theorem inflates_storedBlock {piece rest before data trailer : List UInt8} {isLast : Bool}
    (short : piece.length < 65536)
    (later : Inflates (.behind isLast) ⟨rest, 0⟩ (before ++ piece) data trailer) :
    Inflates .header ⟨storedBlock isLast piece ++ rest, 0⟩ before (piece ++ data) trailer := by
  refine .header (blockHeader_storedBlock isLast rest short) ?_
  split
  · next none_ =>
    rw [List.length_eq_zero_iff] at none_
    rw [none_, List.append_nil] at later
    rw [none_]
    exact later
  · next some_ => exact .stored (by simpa using some_) later

theorem inflates_storedBlocks {pieces : List (List UInt8)} {before trailer : List UInt8}
    (short : ∀ piece ∈ pieces, piece.length < 65536) :
    Inflates .header ⟨pieces.flatMap (storedBlock false) ++ (storedBlock true [] ++ trailer), 0⟩
      before pieces.flatten trailer := by
  induction pieces generalizing before with
  | nil => exact inflates_storedBlock (show ([] : List UInt8).length < 65536 by decide) .finished
  | cons piece pieces ih =>
    rw [List.flatMap_cons, List.append_assoc]
    exact inflates_storedBlock (short piece List.mem_cons_self)
      (ih fun piece mem => short piece (List.mem_cons_of_mem _ mem))

/-! ## Files -/

/-- The facts about data that follow it in a member. -/
def trailerOf (data : List UInt8) : List UInt8 :=
  littleEndian 4 (crc32 data).toNat ++ littleEndian 4 data.length

/-- A file of one member with stored blocks. -/
def storedFile (pieces : List (List UInt8)) : List UInt8 :=
  [0x1f, 0x8b, 8, 0, 0, 0, 0, 0, 0, 255] ++
    (pieces.flatMap (storedBlock false) ++ (storedBlock true [] ++ trailerOf pieces.flatten))

theorem memberTrailer_trailerOf (data : List UInt8) :
    memberTrailer ⟨{}, crc32 data, data.length⟩ (trailerOf data) = .ok [] := by
  have size : (trailerOf data).length = 8 := by
    rw [trailerOf, List.length_append, length_littleEndian, length_littleEndian]
  have taken : takeExact 8 (trailerOf data) = .ok (trailerOf data, []) := by
    have all : (trailerOf data).take 8 = trailerOf data := List.take_of_length_le (by omega)
    rw [takeExact, all, if_pos size, List.drop_of_length_le (by omega)]
  have check : (trailerOf data).take 4 = littleEndian 4 (crc32 data).toNat :=
    List.take_left' (length_littleEndian ..)
  have length : (trailerOf data).drop 4 = littleEndian 4 data.length :=
    List.drop_left' (length_littleEndian ..)
  have low : (crc32 data).toNat < 256 ^ 4 := by
    have := (crc32 data).toNat_lt
    omega
  rw [memberTrailer, taken]
  dsimp only [bind, Except.bind]
  rw [check, length, ofLittleEndian_littleEndian, ofLittleEndian_littleEndian,
    Nat.mod_eq_of_lt low, if_pos ⟨rfl, rfl⟩]
  rfl

/-- A file of stored blocks is intact and stands for what the blocks hold. -/
theorem gzipped_storedFile {pieces : List (List UInt8)}
    (short : ∀ piece ∈ pieces, piece.length < 65536) :
    Gzipped (storedFile pieces) pieces.flatten := by
  have gzipped : Gzipped (storedFile pieces) (pieces.flatten ++ []) :=
    .member rfl (inflates_storedBlocks short) (memberTrailer_trailerOf pieces.flatten) .nil
  rwa [List.append_nil] at gzipped

/-- Every data has an intact file. -/
theorem gzipped_storedFile_bytes (data : List UInt8) :
    Gzipped (storedFile (data.map fun byte => [byte])) data := by
  have gzipped : Gzipped (storedFile (data.map fun byte => [byte]))
      (data.map fun byte => [byte]).flatten := gzipped_storedFile (by simp)
  rwa [← List.flatMap_def, List.flatMap_singleton'] at gzipped

end RegistryMend.Archive
