/-! # The cyclic redundancy check CRC-32

Bits are taken lowest first. The register starts with all bits set and is inverted at the end.
-/

namespace RegistryMend.Digest

/-- One bit of division by the generator polynomial. -/
def crcShift (register : UInt32) : UInt32 :=
  if register &&& 1 = 1 then (register >>> 1) ^^^ 0xedb88320 else register >>> 1

/-- Shifts a register by a number of bits. -/
def crcShifts : Nat → UInt32 → UInt32
  | 0, register => register
  | count + 1, register => crcShifts count (crcShift register)

/-- Takes one byte into the register. -/
def crcByte (register : UInt32) (byte : UInt8) : UInt32 :=
  crcShifts 8 (register ^^^ byte.toUInt32)

/-- The check value after more bytes, from the one before them; it is zero before the first. -/
def crcUpdate (check : UInt32) (bytes : List UInt8) : UInt32 :=
  ~~~(bytes.foldl crcByte (~~~check))

/-- The check value of bytes. -/
def crc32 (bytes : List UInt8) : UInt32 :=
  crcUpdate 0 bytes

example : crc32 [0x61] = 0xe8b7be43 := by decide +kernel

end RegistryMend.Digest
