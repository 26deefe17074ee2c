import Mathlib.Algebra.Group.Nat.Defs
import Mathlib.Data.List.Basic
import RegistryMend.Proofs.Archive.Decoders

/-! # What compressed data stands for

Compressed data is told block by block and element by element, with all its bits at hand. Whoever
inflates it gets less than 130 bytes for a bit.
-/

namespace RegistryMend.Archive

/-- What a copy writes behind what came before it. The copy may run into itself. -/
def copied (distance : Nat) : (length : Nat) → (before : List UInt8) → List UInt8
  | 0, _ => []
  | length + 1, before =>
    let byte := before.getD (before.length - distance) 0
    byte :: copied distance length (before ++ [byte])

/-- What something decoded writes behind what came before it, if it makes sense there. -/
def Pending.written? (before : List UInt8) : Pending → Option (List UInt8)
  | .nothing => some []
  | .literal byte => some [byte]
  | .copy length distance =>
    if distance ≤ before.length then some (copied distance length before) else none

/-- Where the end of a block leads. -/
def Block.behind (isLast : Bool) : Block :=
  if isLast then .finished else .header

/-- From a block on and behind what came before, bits stand for data and end before the rest. -/
inductive Inflates :
    Block → Bits → (before data rest : List UInt8) → Prop
  | finished {before rest : List UInt8} : Inflates .finished ⟨rest, 0⟩ before [] rest
  | header {bits after : Bits} {block : Block} {before data rest : List UInt8}
      (read : Decoder.blockHeader bits = .ok (block, after))
      (later : Inflates block after before data rest) : Inflates .header bits before data rest
  | stored {piece behind before data rest : List UInt8} {isLast : Bool} (some_ : piece ≠ [])
      (later : Inflates (.behind isLast) ⟨behind, 0⟩ (before ++ piece) data rest) :
      Inflates (.stored piece.length isLast) ⟨piece ++ behind, 0⟩ before (piece ++ data) rest
  | element {bits after : Bits} {codes : Codes} {isLast : Bool} {block : Block} {pending : Pending}
      {written before data rest : List UInt8}
      (read : Decoder.element codes isLast bits = .ok ((block, pending), after))
      (writes : pending.written? before = some written)
      (later : Inflates block after (before ++ written) data rest) :
      Inflates (.coded codes isLast) bits before (written ++ data) rest

/-! ## Elements -/

@[simp] theorem length_copied (distance length : Nat) (before : List UInt8) :
    (copied distance length before).length = length := by
  induction length generalizing before with
  | zero => rfl
  | succ length ih => simp [copied, ih]

theorem copied_add (distance first second : Nat) (before : List UInt8) :
    copied distance (first + second) before =
      copied distance first before ++
        copied distance second (before ++ copied distance first before) := by
  induction first generalizing before with
  | zero => simp [copied]
  | succ first ih => rw [Nat.succ_add, copied, copied, ih]; simp

namespace Decoder

variable {α β : Type}

theorem bind_eq_ok {decoder : Decoder α} {next : α → Decoder β} {bits rest : Bits} {value : β}
    (run : (decoder >>= next) bits = .ok (value, rest)) :
    ∃ first middle, decoder bits = .ok (first, middle) ∧ next first middle = .ok (value, rest) := by
  rw [bind_apply] at run
  cases before : decoder bits with
  | error stop => rw [before] at run; cases run
  | ok result =>
    rw [before] at run
    exact ⟨result.1, result.2, rfl, run⟩

theorem bit_lt {bits rest : Bits} {value : Nat} (run : bit bits = .ok (value, rest)) :
    value < 2 := by
  rw [bit] at run
  split at run
  · cases run
  · obtain ⟨rfl, -⟩ := Prod.mk.inj (Except.ok.inj run)
    exact Nat.mod_lt _ (by decide)

theorem number_lt {width : Nat} {bits rest : Bits} {value : Nat}
    (run : number width bits = .ok (value, rest)) : value < 2 ^ width := by
  induction width generalizing bits value with
  | zero => cases run; decide
  | succ width ih =>
    obtain ⟨low, middle, first, run⟩ := bind_eq_ok run
    obtain ⟨high, after, second, run⟩ := bind_eq_ok run
    cases run
    have := bit_lt first
    have := ih second
    rw [Nat.pow_succ]
    omega

/-- The lengths of copies. -/
theorem based_lengthBases {symbol length : Nat} {bits rest : Bits}
    (run : based lengthBases symbol bits = .ok (length, rest)) : 3 ≤ length ∧ length ≤ 258 := by
  have bounds : ∀ entry ∈ lengthBases, 3 ≤ entry.1 ∧ entry.1 + 2 ^ entry.2 ≤ 259 := by decide
  rw [based] at run
  cases found : lengthBases[symbol]? with
  | none => rw [found] at run; cases run
  | some entry =>
    rw [found] at run
    obtain ⟨more, middle, first, run⟩ := bind_eq_ok run
    cases run
    have := number_lt first
    have := bounds _ (List.mem_of_getElem? found)
    omega

/-- A copy is not empty, is no longer than the longest length, and takes two bits at least. -/
theorem element_copy {codes : Codes} {isLast : Bool} {bits rest : Bits} {block : Block}
    {length distance : Nat} (sound : bits.Sound)
    (run : element codes isLast bits = .ok ((block, .copy length distance), rest)) :
    0 < length ∧ length ≤ 258 ∧ rest.count + 2 ≤ bits.count := by
  obtain ⟨symbol, first, readLength, run⟩ := bind_eq_ok run
  obtain ⟨sound_, used, -⟩ := (streams_read _).ok sound readLength
  by_cases isLiteral : symbol < endOfBlock
  · rw [if_pos isLiteral] at run
    cases run
  · rw [if_neg isLiteral] at run
    by_cases isEnd : symbol = endOfBlock
    · rw [if_pos isEnd] at run
      obtain ⟨block, middle, -, run⟩ := bind_eq_ok run
      cases run
    · rw [if_neg isEnd] at run
      obtain ⟨length_, second, readMore, run⟩ := bind_eq_ok run
      obtain ⟨sound_, used_, -⟩ := (streams_based _ _).ok sound_ readMore
      obtain ⟨code, third, readCode, run⟩ := bind_eq_ok run
      obtain ⟨sound_, used__, -⟩ := (streams_read _).ok sound_ readCode
      obtain ⟨distance_, last, readDistance, run⟩ := bind_eq_ok run
      obtain ⟨-, used___, -⟩ := (streams_based _ _).ok sound_ readDistance
      cases run
      have := based_lengthBases readMore
      omega

/-- A block goes on behind everything in it but its end. -/
theorem element_pending {codes : Codes} {isLast : Bool} {bits rest : Bits} {block : Block}
    {pending : Pending} (run : element codes isLast bits = .ok ((block, pending), rest)) :
    pending = .nothing ∨ block = .coded codes isLast := by
  obtain ⟨symbol, first, -, run⟩ := bind_eq_ok run
  by_cases isLiteral : symbol < endOfBlock
  · rw [if_pos isLiteral] at run
    cases run
    exact .inr rfl
  · rw [if_neg isLiteral] at run
    by_cases isEnd : symbol = endOfBlock
    · rw [if_pos isEnd] at run
      obtain ⟨block, middle, -, run⟩ := bind_eq_ok run
      cases run
      exact .inl rfl
    · rw [if_neg isEnd] at run
      obtain ⟨length, second, -, run⟩ := bind_eq_ok run
      obtain ⟨code, third, -, run⟩ := bind_eq_ok run
      obtain ⟨distance, last, -, run⟩ := bind_eq_ok run
      cases run
      exact .inr rfl

end Decoder

/-- An element gives at most 129 bytes for a bit. -/
theorem length_written_le {codes : Codes} {isLast : Bool} {bits after : Bits} {block : Block}
    {pending : Pending} {before written : List UInt8} (sound : bits.Sound)
    (read : Decoder.element codes isLast bits = .ok ((block, pending), after))
    (writes : pending.written? before = some written) :
    written.length + 129 * after.count ≤ 129 * bits.count := by
  have used := ((Decoder.streams_element codes isLast).ok sound read).2.1
  cases pending with
  | nothing =>
    cases writes
    simp only [List.length_nil]
    omega
  | literal byte =>
    cases writes
    simp only [List.length_singleton]
    omega
  | copy length distance =>
    have bounds := Decoder.element_copy sound read
    rw [Pending.written?] at writes
    split at writes
    · cases writes
      rw [length_copied]
      omega
    · cases writes

/-- Compressed data stands for at most 129 bytes for each of its bits. -/
theorem Inflates.length_le {block : Block} {bits : Bits} {before data rest : List UInt8}
    (inflates : Inflates block bits before data rest) (sound : bits.Sound) :
    data.length + 129 * (8 * rest.length) ≤ 129 * bits.count := by
  induction inflates with
  | finished => simp [Bits.count]
  | header read _ ih =>
    obtain ⟨sound_, used, -⟩ := Decoder.streams_blockHeader.ok sound read
    have := ih sound_
    omega
  | stored _ _ ih =>
    have := ih (Bits.sound_whole _)
    simp only [Bits.count, List.length_append, Nat.sub_zero] at this ⊢
    omega
  | element read writes _ ih =>
    obtain ⟨sound_, -, -⟩ := (Decoder.streams_element _ _).ok sound read
    have := ih sound_
    have := length_written_le sound read writes
    rw [List.length_append]
    omega

end RegistryMend.Archive
