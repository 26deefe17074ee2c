import RegistryMend.Text.Utf8

/-! # Reading UTF-8 back

The bytes of characters are read as these characters.
-/

namespace RegistryMend.Text

theorem toNat_ofNat_byte {n : Nat} (low : n < 256) : (UInt8.ofNat n).toNat = n := by
  rw [UInt8.toNat_ofNat', Nat.mod_eq_of_lt low]

theorem continuation?_ofNat {n : Nat} (low : n < 64) :
    continuation? (UInt8.ofNat (0x80 + n)) = some n := by
  rw [continuation?, toNat_ofNat_byte (by omega), if_pos (by simp; omega), Nat.add_sub_cancel_left]

theorem charAbove?_toNat {bound : Nat} {c : Char} (above : bound ≤ c.toNat) :
    charAbove? bound c.toNat = some c := by
  have valid : c.toNat < 0xd800 ∨ 0xdfff < c.toNat ∧ c.toNat < 0x110000 := c.valid
  have inside : (decide (bound ≤ c.toNat) && decide (c.toNat < 0x110000) &&
      !(decide (0xd800 ≤ c.toNat) && decide (c.toNat < 0xe000))) = true := by
    simp only [Bool.and_eq_true, Bool.not_eq_true', Bool.and_eq_false_iff, decide_eq_true_eq,
      decide_eq_false_iff_not]
    omega
  rw [charAbove?, if_pos inside, Char.ofNat_toNat]

/-- The first of the bytes of a character tells how many they are. -/
theorem firstChar?_charBytes (c : Char) (rest : List UInt8) :
    firstChar? (charBytes c ++ rest) = some (c, (charBytes c).length) := by
  have valid : c.toNat < 0x110000 := by
    have : c.toNat < 0xd800 ∨ 0xdfff < c.toNat ∧ c.toNat < 0x110000 := c.valid
    omega
  have tail (n : Nat) : continuation? (UInt8.ofNat (0x80 + n % 64)) = some (n % 64) :=
    continuation?_ofNat (Nat.mod_lt _ (by decide))
  rw [charBytes]
  dsimp only
  by_cases one : c.toNat < 0x80
  · have lead := toNat_ofNat_byte (n := c.toNat) (by omega)
    rw [if_pos one]
    simp [firstChar?, lead, one]
  · rw [if_neg one]
    by_cases two : c.toNat < 0x800
    · have lead := toNat_ofNat_byte (n := 0xc0 + c.toNat / 64) (by omega)
      have sum : (0xc0 + c.toNat / 64 - 0xc0) * 64 + c.toNat / 1 % 64 = c.toNat := by omega
      rw [if_pos two, firstChar?.eq_def]
      dsimp only [List.cons_append, List.nil_append]
      rw [lead, if_neg (by omega), if_pos (by simp; omega)]
      simp only [tail, sum, Option.bind_eq_bind, Option.bind_some,
        charAbove?_toNat (Nat.le_of_not_lt one)]
      rfl
    · rw [if_neg two]
      by_cases three : c.toNat < 0x10000
      · have lead := toNat_ofNat_byte (n := 0xe0 + c.toNat / 4096) (by omega)
        have sum : ((0xe0 + c.toNat / 4096 - 0xe0) * 64 + c.toNat / 64 % 64) * 64 +
            c.toNat / 1 % 64 = c.toNat := by omega
        rw [if_pos three, firstChar?.eq_def]
        dsimp only [List.cons_append, List.nil_append]
        rw [lead, if_neg (by omega), if_neg (by simp), if_pos (by simp; omega)]
        simp only [tail, sum, Option.bind_eq_bind, Option.bind_some,
          charAbove?_toNat (Nat.le_of_not_lt two)]
        rfl
      · have lead := toNat_ofNat_byte (n := 0xf0 + c.toNat / 262144) (by omega)
        have sum : (((0xf0 + c.toNat / 262144 - 0xf0) * 64 + c.toNat / 4096 % 64) * 64 +
            c.toNat / 64 % 64) * 64 + c.toNat / 1 % 64 = c.toNat := by omega
        rw [if_neg three, firstChar?.eq_def]
        dsimp only [List.cons_append, List.nil_append]
        rw [lead, if_neg (by omega), if_neg (by simp; omega), if_neg (by simp),
          if_pos (by simp; omega)]
        simp only [tail, sum, Option.bind_eq_bind, Option.bind_some,
          charAbove?_toNat (Nat.le_of_not_lt three)]
        rfl

/-- Bytes behind the first of a character are skipped. -/
theorem readUtf8_skip (read : List Char) (skipped rest : List UInt8) :
    readUtf8 read skipped.length (skipped ++ rest) = readUtf8 read 0 rest := by
  induction skipped with
  | nil => rfl
  | cons byte skipped ih => exact ih

theorem readUtf8_charBytes (read : List Char) (c : Char) (rest : List UInt8) :
    readUtf8 read 0 (charBytes c ++ rest) = readUtf8 (c :: read) 0 rest := by
  have first := firstChar?_charBytes c rest
  cases bytes : charBytes c with
  | nil =>
    rw [charBytes] at bytes
    dsimp only at bytes
    split at bytes
    · cases bytes
    · split at bytes
      · cases bytes
      · split at bytes <;> cases bytes
  | cons byte tail =>
    rw [bytes] at first
    rw [List.cons_append] at first ⊢
    rw [readUtf8, first]
    exact readUtf8_skip (c :: read) tail rest

theorem readUtf8_utf8Bytes (read cs : List Char) :
    readUtf8 read 0 (utf8Bytes cs) = some (read.reverse ++ cs) := by
  induction cs generalizing read with
  | nil => simp [utf8Bytes, readUtf8]
  | cons c cs ih =>
    rw [utf8Bytes, List.flatMap_cons, readUtf8_charBytes]
    exact (ih (c :: read)).trans (by simp)

/-- The bytes of characters are read as these characters. -/
theorem utf8Chars?_utf8Bytes (cs : List Char) : utf8Chars? (utf8Bytes cs) = some cs :=
  readUtf8_utf8Bytes [] cs

/-- Text whose bytes start with the mark of UTF-8 starts with the character of that mark. -/
theorem eq_mark_cons {cs : List Char} {rest : List UInt8}
    (bytes : utf8Bytes cs = 0xef :: 0xbb :: 0xbf :: rest) :
    ∃ later, cs = Char.ofNat 0xfeff :: later := by
  cases cs with
  | nil => cases bytes
  | cons c cs =>
    have first := firstChar?_charBytes c (utf8Bytes cs)
    have whole : charBytes c ++ utf8Bytes cs = 0xef :: 0xbb :: 0xbf :: rest := bytes
    have bytes_ : charBytes (Char.ofNat 0xfeff) = [0xef, 0xbb, 0xbf] := by decide
    have mark := firstChar?_charBytes (Char.ofNat 0xfeff) rest
    rw [bytes_] at mark
    rw [whole] at first
    obtain ⟨rfl, -⟩ := Prod.mk.inj (Option.some.inj (mark.symm.trans first))
    exact ⟨cs, rfl⟩

end RegistryMend.Text
