/-! # Bits

Bytes are read bit by bit, lowest first. A decoder takes bits and gives a value; it stops if there
are not enough bits, or if they do not make sense.
-/

namespace RegistryMend.Archive

/-- Bytes of which the first was used in part. -/
structure Bits where
  bytes : List UInt8
  /-- The number of bits of the first byte that were used; less than eight. -/
  used : Nat := 0
deriving DecidableEq, Repr

/-- Why decoding stops. -/
inductive Stop where
  /-- More bits are needed. -/
  | short
  /-- The bits are no compressed data. -/
  | damaged
deriving DecidableEq, Repr

/-- Takes bits and gives a value. -/
abbrev Decoder (α : Type) := StateT Bits (Except Stop) α

namespace Decoder

/-- The next bit. -/
def bit : Decoder Nat := fun bits =>
  match bits.bytes with
  | [] => .error .short
  | byte :: rest =>
    .ok (byte.toNat >>> bits.used % 2,
      if bits.used = 7 then ⟨rest, 0⟩ else ⟨bits.bytes, bits.used + 1⟩)

/-- A number of several bits, lowest first. -/
def number : (width : Nat) → Decoder Nat
  | 0 => return 0
  | width + 1 => do
    let low ← bit
    let high ← number width
    return low + 2 * high

/-- Skips the rest of a byte that was used in part. -/
def align : Decoder Unit :=
  modify fun bits => if bits.used = 0 then bits else ⟨bits.bytes.tail, 0⟩

/-- Stops at senseless bits unless a condition holds. -/
def check (condition : Bool) : Decoder Unit :=
  if condition then return () else throw .damaged

end Decoder

end RegistryMend.Archive
