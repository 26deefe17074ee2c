import RegistryMend.Archive.Inflate

/-! # Decoding bits that arrive in pieces

A decoder that has enough bits gives the same value when more bytes follow, and leaves these behind.
Damage stays damage. So a decoder that ran short may be tried again from the same bits with more
bytes behind them, and then uses all that it was short with.
-/

namespace RegistryMend.Archive

/-! ## Bits -/

namespace Bits

/-- Bits with more bytes behind them. -/
def extend (bits : Bits) (more : List UInt8) : Bits :=
  ⟨bits.bytes ++ more, bits.used⟩

@[simp] theorem bytes_extend (bits : Bits) (more : List UInt8) :
    (bits.extend more).bytes = bits.bytes ++ more := rfl

@[simp] theorem used_extend (bits : Bits) (more : List UInt8) :
    (bits.extend more).used = bits.used := rfl

@[simp] theorem extend_nil (bits : Bits) : bits.extend [] = bits := by
  simp [extend]

@[simp] theorem extend_extend (bits : Bits) (more later : List UInt8) :
    (bits.extend more).extend later = bits.extend (more ++ later) := by
  simp [extend]

/-- Only a part of the first byte was used, if there is one. -/
structure Sound (bits : Bits) : Prop where
  used_lt : bits.used < 8
  used_eq : bits.bytes = [] → bits.used = 0

theorem sound_whole (bytes : List UInt8) : Sound ⟨bytes, 0⟩ :=
  ⟨Nat.zero_lt_succ 7, fun _ => rfl⟩

theorem Sound.extend {bits : Bits} (sound : bits.Sound) (more : List UInt8) :
    (bits.extend more).Sound :=
  ⟨sound.used_lt, fun empty => sound.used_eq (List.append_eq_nil_iff.mp empty).1⟩

/-- How many bits there are. -/
def count (bits : Bits) : Nat :=
  8 * bits.bytes.length - bits.used

theorem Sound.used_le {bits : Bits} (sound : bits.Sound) : bits.used ≤ 8 * bits.bytes.length := by
  cases empty : bits.bytes with
  | nil => rw [sound.used_eq empty]; exact Nat.zero_le _
  | cons byte rest =>
    have := sound.used_lt
    simp only [List.length_cons]
    omega

theorem Sound.count_extend {bits : Bits} (sound : bits.Sound) (more : List UInt8) :
    (bits.extend more).count = bits.count + 8 * more.length := by
  have := sound.used_le
  simp only [count, bytes_extend, used_extend, List.length_append]
  omega

/-- Fewer bits stand in no more bytes. -/
theorem Sound.length_le {bits other : Bits} (sound : bits.Sound)
    (fewer : bits.count ≤ other.count) : bits.bytes.length ≤ other.bytes.length := by
  have := sound.used_lt
  simp only [count] at fewer
  omega

end Bits

/-! ## Decoders -/

namespace Decoder

variable {α β : Type}

/-- A decoder that takes bits in their order, at least so many of them for a value, and does not
look behind those that it takes. -/
structure Streams (least : Nat) (decoder : Decoder α) : Prop where
  ok : ∀ {bits rest : Bits} {value : α}, bits.Sound → decoder bits = .ok (value, rest) →
    rest.Sound ∧ rest.count + least ≤ bits.count ∧
      ∀ more, decoder (bits.extend more) = .ok (value, rest.extend more)
  damaged : ∀ {bits : Bits}, bits.Sound → decoder bits = .error .damaged →
    ∀ more, decoder (bits.extend more) = .error .damaged
  short : ∀ {bits rest : Bits} {value : α} {more : List UInt8}, bits.Sound →
    decoder bits = .error .short → decoder (bits.extend more) = .ok (value, rest) →
    rest.bytes.length ≤ more.length

theorem Streams.mono {least fewer : Nat} {decoder : Decoder α} (streams : decoder.Streams least)
    (le : fewer ≤ least) : decoder.Streams fewer where
  ok sound run := by
    obtain ⟨after, used, extended⟩ := streams.ok sound run
    exact ⟨after, by omega, extended⟩
  damaged := streams.damaged
  short := streams.short

theorem streams_pure (value : α) : (pure value : Decoder α).Streams 0 where
  ok sound run := by
    cases run
    exact ⟨sound, Nat.le_refl _, fun _ => rfl⟩
  damaged _ run := by cases run
  short _ run := by cases run

theorem streams_throw (least : Nat) : (throw .damaged : Decoder α).Streams least where
  ok _ run := by cases run
  damaged _ _ _ := rfl
  short _ run := by cases run

theorem bind_apply (decoder : Decoder α) (next : α → Decoder β) (bits : Bits) :
    (decoder >>= next) bits =
      match decoder bits with
      | .ok (value, rest) => next value rest
      | .error stop => .error stop := by
  cases run : decoder bits <;> simp [bind, StateT.bind, Except.bind, run]

theorem Streams.bind {least further : Nat} {decoder : Decoder α} {next : α → Decoder β}
    (first : decoder.Streams least) (second : ∀ value, (next value).Streams further) :
    (decoder >>= next).Streams (least + further) where
  ok {bits rest value} sound run := by
    rw [bind_apply] at run
    cases before : decoder bits with
    | error stop => rw [before] at run; cases run
    | ok result =>
      rw [before] at run
      obtain ⟨middle, used, extended⟩ := first.ok sound before
      obtain ⟨after, used_, extended_⟩ := (second result.1).ok middle run
      refine ⟨after, by omega, fun more => ?_⟩
      rw [bind_apply, extended more]
      exact extended_ more
  damaged {bits} sound run more := by
    rw [bind_apply] at run ⊢
    cases before : decoder bits with
    | error stop =>
      rw [before] at run
      cases run
      rw [first.damaged sound before more]
    | ok result =>
      rw [before] at run
      obtain ⟨middle, -, extended⟩ := first.ok sound before
      rw [extended more]
      exact (second result.1).damaged middle run more
  short {bits rest value more} sound run later := by
    rw [bind_apply] at run later
    cases before : decoder bits with
    | error stop =>
      rw [before] at run
      cases run
      cases first_ : decoder (bits.extend more) with
      | error stop => rw [first_] at later; cases later
      | ok result =>
        rw [first_] at later
        have taken := first.short sound before first_
        obtain ⟨middle, -, -⟩ := first.ok (sound.extend more) first_
        obtain ⟨after, used, -⟩ := (second result.1).ok middle later
        exact Nat.le_trans (after.length_le (by omega : rest.count ≤ result.2.count)) taken
    | ok result =>
      rw [before] at run
      obtain ⟨middle, -, extended⟩ := first.ok sound before
      rw [extended more] at later
      exact (second result.1).short middle run later

theorem streams_bit : bit.Streams 1 where
  ok {bits rest value} sound run := by
    have used := sound.used_lt
    rw [bit] at run
    cases bytes : bits.bytes with
    | nil => rw [bytes] at run; cases run
    | cons byte later =>
      rw [bytes] at run
      obtain ⟨rfl, rfl⟩ := Prod.mk.inj (Except.ok.inj run)
      by_cases full : bits.used = 7
      · rw [if_pos full]
        refine ⟨Bits.sound_whole later, ?_, fun more => ?_⟩
        · simp only [Bits.count, bytes, List.length_cons, full]
          omega
        · simp [bit, Bits.extend, bytes, full]
      · rw [if_neg full]
        refine ⟨⟨?_, fun empty => by cases empty⟩, ?_, fun more => ?_⟩
        · change bits.used + 1 < 8
          omega
        · simp only [Bits.count, bytes, List.length_cons]
          omega
        · simp [bit, Bits.extend, bytes, full]
  damaged {bits} sound run := by
    rw [bit] at run
    split at run <;> cases run
  short {bits rest value more} sound run later := by
    have empty : bits.bytes = [] := by
      rw [bit] at run
      split at run
      · assumption
      · cases run
    rw [bit] at later
    simp only [Bits.bytes_extend, empty, List.nil_append, Bits.used_extend] at later
    cases more with
    | nil => cases later
    | cons byte bytes =>
      obtain ⟨-, rfl⟩ := Prod.mk.inj (Except.ok.inj later)
      split
      · exact Nat.le_succ _
      · exact Nat.le_refl _

theorem streams_number (width : Nat) : (number width).Streams width := by
  induction width with
  | zero => exact streams_pure 0
  | succ width ih =>
    rw [number]
    exact (streams_bit.bind fun low => ih.bind fun high => streams_pure (low + 2 * high)).mono
      (by omega)

theorem align_apply (bits : Bits) :
    align bits = .ok ((), if bits.used = 0 then bits else ⟨bits.bytes.tail, 0⟩) :=
  rfl

theorem streams_align : align.Streams 0 where
  ok {bits rest value} sound run := by
    obtain ⟨-, rfl⟩ := Prod.mk.inj (Except.ok.inj run)
    have used := sound.used_lt
    by_cases whole : bits.used = 0
    · simp only [whole, if_true]
      refine ⟨sound, Nat.le_refl _, fun more => ?_⟩
      simp [align_apply, whole]
    · simp only [whole, if_false]
      cases bytes : bits.bytes with
      | nil => exact absurd (sound.used_eq bytes) whole
      | cons byte later =>
        refine ⟨Bits.sound_whole later, ?_, fun more => ?_⟩
        · simp only [Bits.count, bytes, List.length_cons, List.tail_cons]
          omega
        · simp [align_apply, whole, bytes, Bits.extend]
  damaged _ run := by cases run
  short _ run := by cases run

theorem streams_check (condition : Bool) : (check condition).Streams 0 := by
  rw [check]
  split
  · exact streams_pure ()
  · exact streams_throw 0

theorem streams_numbers (width count : Nat) : (numbers width count).Streams 0 := by
  induction count with
  | zero => exact streams_pure []
  | succ count ih =>
    rw [numbers]
    exact ((streams_number width).bind fun first => ih.bind fun rest =>
      streams_pure (first :: rest)).mono (Nat.zero_le _)

theorem streams_based (bases : List (Nat × Nat)) (symbol : Nat) :
    (based bases symbol).Streams 0 := by
  rw [based]
  split
  · exact streams_throw 0
  · next base width _ =>
    exact ((streams_number width).bind fun more => streams_pure (base + more)).mono
      (Nat.zero_le _)

theorem streams_readFrom (place : Nat) (code : PrefixCode) :
    (PrefixCode.readFrom place code).Streams 1 := by
  induction code generalizing place with
  | nil => exact streams_throw 1
  | cons symbols longer ih =>
    rw [PrefixCode.readFrom]
    refine (streams_bit.bind fun low => ?_ : Streams (1 + 0) _)
    dsimp only
    split
    · next symbol _ => exact streams_pure symbol
    · exact (ih _).mono (Nat.zero_le _)

theorem streams_read (code : PrefixCode) : code.read.Streams 1 :=
  streams_readFrom 0 code

theorem streams_codeLengthCode (count : Nat) : (codeLengthCode count).Streams 0 := by
  rw [codeLengthCode]
  exact (streams_numbers 3 count).bind fun given => (streams_check _).bind fun _ => streams_pure _

theorem streams_codeLengthSymbol (code : PrefixCode) : (codeLengthSymbol code).Streams 1 := by
  rw [codeLengthSymbol]
  split
  · exact streams_bit.bind fun _ => streams_pure 0
  · exact streams_read code

theorem streams_codeLengths (code : PrefixCode) (wanted fuel : Nat) (read : List Nat) :
    (codeLengths code wanted fuel read).Streams 0 := by
  induction fuel generalizing read with
  | zero => exact streams_pure read.reverse
  | succ fuel ih =>
    rw [codeLengths]
    split
    · exact streams_pure read.reverse
    · refine ((streams_codeLengthSymbol code).bind fun symbol => ?_ : Streams (1 + 0) _).mono
        (Nat.zero_le _)
      split
      · exact ih _
      · exact ((streams_number _).bind fun extra => (streams_check _).bind fun _ =>
          (streams_check _).bind fun _ => ih _).mono (Nat.zero_le _)

theorem streams_ownCodes : ownCodes.Streams 0 := by
  rw [ownCodes]
  refine ((streams_number 5).bind fun lengths => (streams_number 5).bind fun distances =>
    (streams_number 4).bind fun codes => (streams_check _).bind fun _ =>
      (streams_codeLengthCode _).bind fun code => (streams_codeLengths _ _ _ _).bind fun read =>
        (streams_check _).bind fun _ => (streams_check _).bind fun _ =>
          (streams_check _).bind fun _ => streams_pure _).mono (Nat.zero_le _)

theorem streams_afterBlock (isLast : Bool) : (afterBlock isLast).Streams 0 := by
  rw [afterBlock]
  split
  · exact streams_align.bind fun _ => streams_pure Block.finished
  · exact streams_pure Block.header

theorem streams_blockHeader : blockHeader.Streams 3 := by
  rw [blockHeader]
  refine streams_bit.bind fun last => ((streams_number 2).bind fun kind => ?_ : Streams (2 + 0) _)
  split
  · refine streams_align.bind fun _ => ((streams_number 16).bind fun length =>
      (streams_number 16).bind fun complement => (streams_check _).bind fun _ =>
        (?_ : Streams 0 _)).mono (Nat.zero_le _)
    split
    · exact streams_afterBlock _
    · exact streams_pure _
  · exact streams_pure _
  · exact streams_ownCodes.bind fun _ => streams_pure _
  · exact streams_throw 0

theorem streams_element (codes : Codes) (isLast : Bool) : (element codes isLast).Streams 1 := by
  rw [element]
  refine ((streams_read codes.lengths).bind fun symbol => ?_ : Streams (1 + 0) _)
  split
  · exact streams_pure _
  · split
    · exact (streams_afterBlock isLast).bind fun block => streams_pure (block, Pending.nothing)
    · exact ((streams_based _ _).bind fun length =>
        (streams_read codes.distances).bind fun symbol =>
        (streams_based _ _).bind fun distance => streams_pure _).mono (Nat.zero_le _)

end Decoder
end RegistryMend.Archive
