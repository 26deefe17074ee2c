import RegistryMend.Digest.BlockHash

/-! # SHA-1

Eighty rounds over five words of thirty-two bits, for blocks of sixty-four bytes.
-/

namespace RegistryMend.Digest

/-- The words of the state. -/
structure Sha1State where
  a : UInt32
  b : UInt32
  c : UInt32
  d : UInt32
  e : UInt32
deriving DecidableEq, Repr

namespace Sha1State

/-- Adds two states word by word. -/
def add (s t : Sha1State) : Sha1State :=
  ⟨s.a + t.a, s.b + t.b, s.c + t.c, s.d + t.d, s.e + t.e⟩

/-- The words as bytes, most significant first. -/
def bytes (s : Sha1State) : List UInt8 :=
  [s.a, s.b, s.c, s.d, s.e].flatMap fun word => bigEndian 4 word.toNat

end Sha1State

/-- Rotates a word to the left by one to thirty-one bits. -/
def rotateLeft32 (word count : UInt32) : UInt32 :=
  (word <<< count) ||| (word >>> (32 - count))

/-- The words of a block, followed by those that the schedule derives from them. -/
def sha1Schedule (block : List UInt8) : Array UInt32 :=
  let words := ((chunks 4 block).map fun bytes => UInt32.ofNat (ofBigEndian bytes)).toArray
  (List.range 64).foldl (fun words i =>
    words.push (rotateLeft32 (words.getD (i + 13) 0 ^^^ words.getD (i + 8) 0 ^^^
      words.getD (i + 2) 0 ^^^ words.getD i 0) 1)) words

/-- The round function and the constant of a round. -/
def sha1Mix (round : Nat) (b c d : UInt32) : UInt32 :=
  if round < 20 then ((b &&& c) ||| (~~~b &&& d)) + 0x5a827999
  else if round < 40 then (b ^^^ c ^^^ d) + 0x6ed9eba1
  else if round < 60 then ((b &&& c) ||| (b &&& d) ||| (c &&& d)) + 0x8f1bbcdc
  else (b ^^^ c ^^^ d) + 0xca62c1d6

/-- One round with a word of the schedule. -/
def sha1Round (schedule : Array UInt32) (s : Sha1State) (round : Nat) : Sha1State :=
  let a := rotateLeft32 s.a 5 + sha1Mix round s.b s.c s.d + s.e + schedule.getD round 0
  ⟨a, s.a, rotateLeft32 s.b 30, s.c, s.d⟩

/-- Takes a block into the state. -/
def sha1Compress (s : Sha1State) (block : List UInt8) : Sha1State :=
  s.add ((List.range 80).foldl (sha1Round (sha1Schedule block)) s)

/-- The SHA-1 hash. -/
def sha1 : BlockHash Sha1State where
  blockSize := 64
  lengthSize := 8
  start := ⟨0x67452301, 0xefcdab89, 0x98badcfe, 0x10325476, 0xc3d2e1f0⟩
  compress := sha1Compress
  output := Sha1State.bytes

end RegistryMend.Digest
