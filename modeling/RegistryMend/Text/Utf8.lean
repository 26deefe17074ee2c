/-! # UTF-8

Characters are written as one to four bytes. Reading refuses every other sequence: stray and
missing continuation bytes, forms longer than needed, surrogates and numbers that are too large.
-/

namespace RegistryMend.Text

/-- The six bits of a continuation byte. -/
def continuation? (byte : UInt8) : Option Nat :=
  if 0x80 ≤ byte.toNat && byte.toNat < 0xc0 then some (byte.toNat - 0x80) else none

/-- The character with a code point, if it lies behind a bound and is no surrogate. -/
def charAbove? (bound code : Nat) : Option Char :=
  if bound ≤ code && code < 0x110000 && !(0xd800 ≤ code && code < 0xe000) then
    some (Char.ofNat code)
  else none

/-- The character that starts a list of bytes, and the number of its bytes. -/
def firstChar? : List UInt8 → Option (Char × Nat)
  | [] => none
  | a :: rest =>
    let lead := a.toNat
    if lead < 0x80 then some (Char.ofNat lead, 1)
    else if 0xc0 ≤ lead && lead < 0xe0 then
      match rest with
      | b :: _ => do
        let b ← continuation? b
        return (← charAbove? 0x80 ((lead - 0xc0) * 64 + b), 2)
      | _ => none
    else if 0xe0 ≤ lead && lead < 0xf0 then
      match rest with
      | b :: c :: _ => do
        let b ← continuation? b
        let c ← continuation? c
        return (← charAbove? 0x800 (((lead - 0xe0) * 64 + b) * 64 + c), 3)
      | _ => none
    else if 0xf0 ≤ lead && lead < 0xf8 then
      match rest with
      | b :: c :: d :: _ => do
        let b ← continuation? b
        let c ← continuation? c
        let d ← continuation? d
        return (← charAbove? 0x10000 ((((lead - 0xf0) * 64 + b) * 64 + c) * 64 + d), 4)
      | _ => none
    else none

/-- Reads characters; those read so far are held last first, and `skip` bytes belong to the last of
them. -/
def readUtf8 (read : List Char) : (skip : Nat) → List UInt8 → Option (List Char)
  | _, [] => some read.reverse
  | skip + 1, _ :: rest => readUtf8 read skip rest
  | 0, byte :: rest =>
    match firstChar? (byte :: rest) with
    | some (c, width) => readUtf8 (c :: read) (width - 1) rest
    | none => none

/-- The characters that bytes stand for, if they are UTF-8. -/
def utf8Chars? (bytes : List UInt8) : Option (List Char) :=
  readUtf8 [] 0 bytes

/-- The bytes of a character. -/
def charBytes (c : Char) : List UInt8 :=
  let n := c.toNat
  let tail (shift : Nat) : UInt8 := UInt8.ofNat (0x80 + n / shift % 64)
  if n < 0x80 then [UInt8.ofNat n]
  else if n < 0x800 then [UInt8.ofNat (0xc0 + n / 64), tail 1]
  else if n < 0x10000 then [UInt8.ofNat (0xe0 + n / 4096), tail 64, tail 1]
  else [UInt8.ofNat (0xf0 + n / 262144), tail 4096, tail 64, tail 1]

/-- The bytes of characters. -/
def utf8Bytes (cs : List Char) : List UInt8 :=
  cs.flatMap charBytes

example : utf8Bytes ['é', '😀'] = [0xc3, 0xa9, 0xf0, 0x9f, 0x98, 0x80] := by decide
example : utf8Chars? [0xc3, 0xa9, 0xf0, 0x9f, 0x98, 0x80] = some ['é', '😀'] := by decide
example : utf8Chars? [0xed, 0xa0, 0x80] = none := by decide

end RegistryMend.Text
