/-! # Base64

Three bytes are written as four characters of the standard alphabet; a shorter last group is filled
with equals signs.
-/

namespace RegistryMend.Text

/-- The character for six bits. -/
def base64Char (n : Nat) : Char :=
  if n < 26 then Char.ofNat (65 + n)
  else if n < 52 then Char.ofNat (71 + n)
  else if n < 62 then Char.ofNat (n - 4)
  else if n = 62 then '+' else '/'

/-- The characters of the given number of groups of six bits, highest first. -/
def base64Group : (count : Nat) → Nat → List Char
  | 0, _ => []
  | count + 1, n => base64Group count (n / 64) ++ [base64Char (n % 64)]

/-- The characters for bytes. -/
def base64Chars : List UInt8 → List Char
  | a :: b :: c :: rest =>
    base64Group 4 ((a.toNat * 256 + b.toNat) * 256 + c.toNat) ++ base64Chars rest
  | [a, b] => base64Group 3 ((a.toNat * 256 + b.toNat) * 4) ++ ['=']
  | [a] => base64Group 2 (a.toNat * 16) ++ ['=', '=']
  | [] => []

/-- The Base64 text of bytes. -/
def base64 (bytes : List UInt8) : String :=
  String.ofList (base64Chars bytes)

example : base64 [0x4d, 0x61, 0x6e] = "TWFu" := by decide
example : base64 [0xff, 0xfe] = "//4=" := by decide
example : base64 [] = "" := by decide

end RegistryMend.Text
