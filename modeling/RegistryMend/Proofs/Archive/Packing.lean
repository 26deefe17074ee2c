import RegistryMend.Proofs.Archive.Members
import RegistryMend.Proofs.Archive.StoredBlocks

/-! # Packing files and directories

Headers are written for names and sizes that fit their fields, and what is packed under them forms
an archive that can be walked.
-/

namespace RegistryMend.Archive

/-! ## Fields -/

/-- The last octal digits of a number. -/
def octalDigits : (count : Nat) → Nat → List UInt8
  | 0, _ => []
  | count + 1, n => octalDigits count (n / 8) ++ [UInt8.ofNat (48 + n % 8)]

/-- A number in a field of some length, with a zero behind it. -/
def octalField (length n : Nat) : List UInt8 :=
  octalDigits (length - 1) n ++ [0]

@[simp] theorem length_octalDigits (count n : Nat) : (octalDigits count n).length = count := by
  induction count generalizing n with
  | zero => rfl
  | succ count ih => rw [octalDigits, List.length_append, ih, List.length_singleton]

theorem length_octalField {length : Nat} (some_ : 0 < length) (n : Nat) :
    (octalField length n).length = length := by
  rw [octalField, List.length_append, length_octalDigits, List.length_singleton]
  omega

theorem toNat_octalDigit (n : Nat) : (UInt8.ofNat (48 + n % 8)).toNat - 48 = n % 8 := by
  rw [UInt8.toNat_ofNat', Nat.mod_eq_of_lt (by omega)]
  omega

theorem octalValue_octalDigits (count n : Nat) :
    octalValue (octalDigits count n) = n % 8 ^ count := by
  induction count generalizing n with
  | zero => rw [octalDigits, Nat.pow_zero, Nat.mod_one]; rfl
  | succ count ih =>
    have value : octalValue (octalDigits (count + 1) n) =
        8 * octalValue (octalDigits count (n / 8)) + ((UInt8.ofNat (48 + n % 8)).toNat - 48) := by
      rw [octalDigits, octalValue, List.foldl_append]
      rfl
    rw [value, ih, toNat_octalDigit, Nat.pow_succ, Nat.mul_comm (8 ^ count), Nat.mod_mul]
    omega

theorem mem_octalDigits {count n : Nat} :
    ∀ digit ∈ octalDigits count n, digit ∈ asciiBytes "01234567" := by
  induction count generalizing n with
  | zero => nofun
  | succ count ih =>
    have all : ∀ k < 8, UInt8.ofNat (48 + k) ∈ asciiBytes "01234567" := by
      decide
    intro digit mem
    rcases List.mem_append.mp mem with mem | mem
    · exact ih digit mem
    · rw [List.mem_singleton.mp mem]
      exact all _ (Nat.mod_lt _ (by decide))

/-- A number that fits its field is read back from it. -/
theorem octal_octalField {length n : Nat} (fits : n < 8 ^ (length - 1)) :
    Octal (octalField length n) n := by
  have octal : Octal ([] ++ (octalDigits (length - 1) n ++ [0])) (octalValue _) :=
    .intro nofun mem_octalDigits (by simp)
  rwa [octalValue_octalDigits, Nat.mod_eq_of_lt fits] at octal

theorem field_append_left {first : List UInt8} {length : Nat} (whole : first.length = length)
    (rest : List UInt8) : field 0 length (first ++ rest) = first := by
  rw [field, List.drop_zero, List.take_left' whole]

theorem field_append_right {first : List UInt8} {skipped : Nat} (whole : first.length = skipped)
    (rest : List UInt8) {place : Nat} (past : skipped ≤ place) (length : Nat) :
    field place length (first ++ rest) = field (place - skipped) length rest := by
  rw [field, field, List.drop_append, List.drop_of_length_le (by omega), List.nil_append, whole]

/-! ## Headers -/

/-- The field of a name. -/
def nameField (name : List UInt8) : List UInt8 :=
  name ++ List.replicate (100 - name.length) 0

/-- The fields before that of the sum. -/
def fieldsBeforeSum (name : List UInt8) (size : Nat) : List UInt8 :=
  nameField name ++ (octalField 8 420 ++ (octalField 8 0 ++
    (octalField 8 0 ++ (octalField 12 size ++ octalField 12 0))))

/-- The fields behind that of the sum. -/
def fieldsBehindSum (mark : UInt8) : List UInt8 :=
  [mark] ++ (List.replicate 100 0 ++ (asciiBytes "ustar\x0000" ++ (List.replicate 64 0 ++
    (octalField 8 0 ++ (octalField 8 0 ++ List.replicate 167 0)))))

/-- A header for a member with a name and a size. -/
def ustarHeader (name : List UInt8) (mark : UInt8) (size : Nat) : List UInt8 :=
  let before := fieldsBeforeSum name size
  let behind := fieldsBehindSum mark
  let sum := ((before ++ List.replicate 8 32 ++ behind).map UInt8.toNat).sum
  before ++ (octalField 8 sum ++ behind)

section

variable {name : List UInt8} {mark : UInt8} {size : Nat}

theorem length_nameField (short : name.length ≤ 100) : (nameField name).length = 100 := by
  rw [nameField, List.length_append, List.length_replicate]
  omega

theorem length_fieldsBeforeSum (short : name.length ≤ 100) (size : Nat) :
    (fieldsBeforeSum name size).length = 148 := by
  have lengths {length : Nat} (some_ : 0 < length) (n : Nat) := length_octalField some_ n
  simp only [fieldsBeforeSum, List.length_append, length_nameField short,
    lengths (show 0 < 8 by decide), lengths (show 0 < 12 by decide)]

theorem length_fieldsBehindSum (mark : UInt8) : (fieldsBehindSum mark).length = 356 := by
  have magic : (asciiBytes "ustar\x0000").length = 8 := rfl
  simp only [fieldsBehindSum, List.length_append, List.length_replicate, List.length_singleton,
    magic, length_octalField (show 0 < 8 by decide)]

theorem headerSum_ustarHeader (short : name.length ≤ 100) :
    headerSum (ustarHeader name mark size) = ((fieldsBeforeSum name size ++ List.replicate 8 32 ++
      fieldsBehindSum mark).map UInt8.toNat).sum := by
  have before := length_fieldsBeforeSum short size
  have sum := length_octalField (show 0 < 8 by decide)
  rw [headerSum, ustarHeader, List.take_left' before, ← List.append_assoc, List.drop_left' (by
    rw [List.length_append, before, sum])]

theorem sum_toNat_le (bytes : List UInt8) :
    (bytes.map UInt8.toNat).sum ≤ 255 * bytes.length := by
  induction bytes with
  | nil => exact Nat.zero_le _
  | cons byte bytes ih =>
    have := byte.toNat_lt
    rw [List.map_cons, List.sum_cons, List.length_cons]
    omega

/-- The fields of a header are those that were written. -/
theorem field_ustarHeader (short : name.length ≤ 100) (mark : UInt8) (size : Nat) :
    field 0 100 (ustarHeader name mark size) = nameField name ∧
      field 100 8 (ustarHeader name mark size) = octalField 8 420 ∧
      field 108 8 (ustarHeader name mark size) = octalField 8 0 ∧
      field 116 8 (ustarHeader name mark size) = octalField 8 0 ∧
      field 124 12 (ustarHeader name mark size) = octalField 12 size ∧
      field 136 12 (ustarHeader name mark size) = octalField 12 0 ∧
      field 148 8 (ustarHeader name mark size) =
        octalField 8 (headerSum (ustarHeader name mark size)) ∧
      field 156 1 (ustarHeader name mark size) = [mark] ∧
      field 329 8 (ustarHeader name mark size) = octalField 8 0 ∧
      field 337 8 (ustarHeader name mark size) = octalField 8 0 ∧
      field 345 155 (ustarHeader name mark size) = List.replicate 155 0 := by
  have eight (n : Nat) : (octalField 8 n).length = 8 := length_octalField (by decide) n
  have twelve (n : Nat) : (octalField 12 n).length = 12 := length_octalField (by decide) n
  have hundred := length_nameField short
  have magic : (asciiBytes "ustar\x0000").length = 8 := rfl
  have zeros (n : Nat) : (List.replicate n (0 : UInt8)).length = n := List.length_replicate
  have single : [mark].length = 1 := rfl
  rw [headerSum_ustarHeader short, ustarHeader]
  generalize ((fieldsBeforeSum name size ++ List.replicate 8 32 ++
    fieldsBehindSum mark).map UInt8.toNat).sum = sum
  rw [fieldsBeforeSum, fieldsBehindSum]
  simp (disch := decide) only [List.append_assoc, field_append_right hundred,
    field_append_right (eight _), field_append_right (twelve _), field_append_right single,
    field_append_right (zeros _), field_append_right magic, field_append_left hundred,
    field_append_left (eight _), field_append_left (twelve _), field_append_left single, true_and]
  rw [field, List.drop_replicate, List.take_replicate]
  rfl

theorem ustar_ustarHeader {kind : Kind} (named : name ≠ []) (short : name.length ≤ 100)
    (ascii : ∀ byte ∈ name, byte ≠ 0 ∧ byte < 128) (small : size < 8 ^ 11)
    (marks : Marks mark name size kind) : Ustar (ustarHeader name mark size) name size kind := by
  have before := length_fieldsBeforeSum short size
  have behind := length_fieldsBehindSum mark
  have eight (n : Nat) : (octalField 8 n).length = 8 := length_octalField (by decide) n
  have length : (ustarHeader name mark size).length = blockSize := by
    rw [ustarHeader]
    simp only [List.length_append, before, behind, eight]
    rfl
  have sum : headerSum (ustarHeader name mark size) < 8 ^ 7 := by
    have := sum_toNat_le (fieldsBeforeSum name size ++ List.replicate 8 32 ++ fieldsBehindSum mark)
    rw [headerSum_ustarHeader short]
    simp only [List.length_append, List.length_replicate, before, behind] at this
    omega
  obtain ⟨holds, mode, owner, group, sized, time, summed, marked, major, minor, noPrefix⟩ :=
    field_ustarHeader short mark size
  refine ⟨length, named, ascii, holds, ?_, ?_, sized ▸ octal_octalField small,
    summed ▸ octal_octalField sum, ⟨mark, ?_, marks⟩⟩
  · rw [noPrefix]
    rfl
  · intro place mem
    simp only [numberFields, List.mem_cons, List.not_mem_nil, or_false] at mem
    rcases mem with rfl | rfl | rfl | rfl | rfl | rfl | rfl
    · exact ⟨420, mode ▸ octal_octalField (by decide)⟩
    · exact ⟨0, owner ▸ octal_octalField (by decide)⟩
    · exact ⟨0, group ▸ octal_octalField (by decide)⟩
    · exact ⟨size, sized ▸ octal_octalField small⟩
    · exact ⟨0, time ▸ octal_octalField (by decide)⟩
    · exact ⟨0, major ▸ octal_octalField (by decide)⟩
    · exact ⟨0, minor ▸ octal_octalField (by decide)⟩
  · have first := congrArg List.head? marked
    rwa [field, List.head?_take, if_neg (by decide), List.head?_drop] at first

end

/-! ## Members -/

/-- The bytes that fill the last block of data. -/
def fillBlock (size : Nat) : List UInt8 :=
  List.replicate ((blockSize - size % blockSize) % blockSize) 0

theorem length_fillBlock_lt (size : Nat) : (fillBlock size).length < blockSize := by
  rw [fillBlock, List.length_replicate]
  exact Nat.mod_lt _ (by decide)

theorem dvd_length_fillBlock (size : Nat) : blockSize ∣ size + (fillBlock size).length := by
  rw [fillBlock, List.length_replicate, blockSize]
  omega

/-- A member that is packed under a name. -/
def TarMember.pack (name : List UInt8) (mark : UInt8) (kind : Kind) (content : List UInt8)
    (named : name ≠ []) (short : name.length ≤ 100) (ascii : ∀ byte ∈ name, byte ≠ 0 ∧ byte < 128)
    (small : content.length < 8 ^ 11) (marks : Marks mark name content.length kind) :
    TarMember where
  name := name
  kind := kind
  header := ustarHeader name mark content.length
  content := content
  padding := fillBlock content.length
  ustar := ustar_ustarHeader named short ascii small marks
  short := length_fillBlock_lt content.length
  whole := dvd_length_fillBlock content.length

end RegistryMend.Archive
