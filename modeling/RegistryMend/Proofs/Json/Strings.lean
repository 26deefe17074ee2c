import RegistryMend.Json.Canonical
import RegistryMend.Json.Reader
import RegistryMend.Proofs.Text.Wide

/-! # Strings read back

Every code point of a string is read back from its escape. Characters beyond U+FFFF are written as
two surrogates and read as these; they are put together where the string ends. A lone surrogate of the
string makes no pair with what stands next to it.
-/

namespace RegistryMend.Json

/-- Four hexadecimal digits, written out. -/
theorem hexDigits_four (n : Nat) : Text.hexDigits 4 n =
    [Text.hexDigit (n / 4096 % 16), Text.hexDigit (n / 256 % 16), Text.hexDigit (n / 16 % 16),
      Text.hexDigit (n % 16)] := by
  simp [Text.hexDigits, Nat.div_div_eq_div_mul]

/-- A code unit is read back from its four digits. -/
theorem hexQuad?_hexDigits {n : Nat} (small : n < 0x10000) :
    hexQuad? (Text.hexDigit (n / 4096 % 16)) (Text.hexDigit (n / 256 % 16))
      (Text.hexDigit (n / 16 % 16)) (Text.hexDigit (n % 16)) = some n := by
  have digit (m : Nat) : Text.hexValue? (Text.hexDigit (m % 16)) = some (m % 16) :=
    Text.hexValue?_hexDigit (Nat.mod_lt _ (by decide))
  rw [hexQuad?, digit, digit, digit, digit]
  simp only [Option.bind_eq_bind, Option.bind_some, Option.pure_def, Option.some.injEq]
  omega

/-- A code unit is read as the code point that it stands for. -/
theorem readString_unicodeEscape {n : Nat} (small : n < 0x10000) (read : List Code)
    (rest : List Char) :
    readString read (unicodeEscape n ++ rest) = readString (.ofUnit n :: read) rest := by
  rw [unicodeEscape, hexDigits_four]
  simp only [List.cons_append, List.nil_append]
  rw [readString, hexQuad?_hexDigits small]

/-- What the escapes of a code point are read as before the halves of pairs are put together. -/
def readUnits : Code → List Code
  | .char c =>
    if c.toNat < 0x10000 then [.char c]
    else [.ofUnit (0xd800 + (c.toNat - 0x10000) / 0x400), .ofUnit (0xdc00 + (c.toNat - 0x10000) % 0x400)]
  | .lone place => [.lone place]

/-- A character is read from its escape. -/
theorem readString_escapeChar (c : Char) (read : List Code) (rest : List Char) :
    readString read (escapeChar c ++ rest) = readString ((readUnits c).reverse ++ read) rest := by
  obtain ⟨noSurrogate, small⟩ : (c.toNat < 0xd800 ∨ 0xe000 ≤ c.toNat) ∧ c.toNat < 0x110000 := by
    have valid : c.toNat.isValidChar := c.valid
    rw [Nat.isValidChar] at valid
    omega
  have self : Char.ofNat c.toNat = c := Char.ofNat_toNat c
  have single (low : c.toNat < 0x10000) : readUnits c = [.char c] := if_pos low
  rw [escapeChar]
  split
  · next quoted =>
    rcases quoted with rfl | rfl <;> simp [readString, shortEscape?, readUnits]
  split
  · next same =>
    simp [readString, shortEscape?, same, readUnits]
  split
  · next same =>
    simp [readString, shortEscape?, same, readUnits]
  split
  · next same =>
    simp [readString, shortEscape?, same, readUnits]
  split
  · next same =>
    rw [single (by omega), ← self, same]
    simp [readString, shortEscape?]
  split
  · next same =>
    rw [single (by omega), ← self, same]
    simp [readString, shortEscape?]
  split
  · next plain _ _ _ _ _ printable =>
    obtain ⟨quote, backslash⟩ := not_or.mp plain
    rw [single (by omega), List.singleton_append, readString, if_neg (Nat.not_lt.mpr printable.1)]
    · rfl
    · exact quote
    · exact fun _ _ _ _ _ same => absurd same backslash
    · exact fun _ _ same => absurd same backslash
  split
  · next low =>
    have unit : Code.ofUnit c.toNat = c := by
      rw [Code.ofUnit, if_neg (by omega), self]
    rw [readString_unicodeEscape low, single low, unit]
    rfl
  · next large =>
    rw [List.append_assoc, readString_unicodeEscape (by omega), readString_unicodeEscape (by omega),
      readUnits, if_neg large]
    rfl

/-- A code point is read from its escape. -/
theorem readString_escapeCode (code : Code) (read : List Code) (rest : List Char) :
    readString read (escapeCode code ++ rest) =
      readString ((readUnits code).reverse ++ read) rest := by
  cases code with
  | char c => exact readString_escapeChar c read rest
  | lone place =>
    rw [escapeCode, readString_unicodeEscape (by omega), Code.ofUnit_surrogate]
    rfl

/-- The code points of a string are read one after the other. -/
theorem readString_flatMap (codes read : List Code) (rest : List Char) :
    readString read (codes.flatMap escapeCode ++ '"' :: rest) =
      .ok (.ofCodes (read.reverse ++ codes.flatMap readUnits), rest) := by
  induction codes generalizing read with
  | nil => simp [readString]
  | cons code codes ih =>
    rw [List.flatMap_cons, List.append_assoc, readString_escapeCode, ih]
    simp

/-- The halves of a pair are put together. -/
theorem join_readUnits_char (c : Char) (rest : List Code) :
    Code.join (readUnits c ++ rest) = .char c :: Code.join rest := by
  have bound : c.toNat < 0x110000 := by
    have valid : c.toNat.isValidChar := c.valid
    rw [Nat.isValidChar] at valid
    omega
  rw [readUnits]
  split
  · exact Code.joinTo_char c _
  · next large =>
    let high : Fin 0x800 := ⟨(c.toNat - 0x10000) / 0x400, by omega⟩
    let low : Fin 0x800 := ⟨0x400 + (c.toNat - 0x10000) % 0x400, by omega⟩
    have units : [Code.ofUnit (0xd800 + (c.toNat - 0x10000) / 0x400),
        .ofUnit (0xdc00 + (c.toNat - 0x10000) % 0x400)] = [.lone high, .lone low] := by
      rw [← Code.ofUnit_surrogate high, ← Code.ofUnit_surrogate low, ← Nat.add_assoc]
    have pair : Code.pair high low = c := by
      have number : 0x10000 + high * 0x400 + (low - 0x400) = c.toNat := by
        simp only [high, low]
        omega
      rw [Code.pair, number, Char.ofNat_toNat]
    have halves : high < 0x400 ∧ 0x400 ≤ low := by
      refine ⟨?_, Nat.le_add_right ..⟩
      change (c.toNat - 0x10000) / 0x400 < 0x400
      omega
    -- the second half makes no pair with what stands behind it
    have second : Code.joinTo (.lone low) (Code.join rest) = .lone low :: Code.join rest :=
      Code.joinTo_of_not_high _ (Code.isHigh_of_le halves.2)
    rw [units, List.cons_append, List.singleton_append, Code.join_cons, Code.join_cons, second,
      Code.joinTo, if_pos halves, pair]

/-- What is read from the escapes of a string is the string once halves are put together. -/
theorem join_flatMap_readUnits {codes : List Code} (joined : Code.isJoined codes = true) :
    Code.join (codes.flatMap readUnits) = codes := by
  induction codes with
  | nil => rfl
  | cons code rest ih =>
    have later := ih (Code.isJoined_of_cons joined)
    rw [List.flatMap_cons]
    cases code with
    | char c => rw [join_readUnits_char, later]
    | lone place =>
      rw [readUnits, List.singleton_append, Code.join_cons, later, Code.joinTo_of_isJoined joined]

/-- A string is read back behind its opening quotation mark. -/
theorem readString_stringChars (s : WideText) (rest : List Char) :
    ∃ behind, stringChars s ++ rest = '"' :: behind ∧ readString [] behind = .ok (s, rest) := by
  refine ⟨s.codes.flatMap escapeCode ++ '"' :: rest, by simp [stringChars], ?_⟩
  have whole : WideText.ofCodes (s.codes.flatMap readUnits) = s :=
    WideText.ext_codes (join_flatMap_readUnits s.joined)
  rw [readString_flatMap, List.reverse_nil, List.nil_append, whole]

end RegistryMend.Json
