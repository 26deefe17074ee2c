import RegistryMend.Archive.PrefixCode

/-! # Inflating

Compressed data is a sequence of blocks: stored bytes, or codes for bytes and for copies of what
came before. It is inflated piece by piece. When a piece is full, decoding goes on up to the next
thing that would give a byte, so that the end of the data, or damage, may already be noticed.
-/

namespace RegistryMend.Archive

/-- The two codes of a block. -/
structure Codes where
  lengths : PrefixCode
  distances : PrefixCode
deriving DecidableEq, Repr

/-- Where inflating stands. -/
inductive Block where
  /-- Before the header of a block. -/
  | header
  /-- Within stored bytes, of which some are left. -/
  | stored (left : Nat) (isLast : Bool)
  /-- Within codes. -/
  | coded (codes : Codes) (isLast : Bool)
  /-- Behind the last block. -/
  | finished
deriving DecidableEq, Repr

/-- What was decoded and not written yet. -/
inductive Pending where
  | nothing
  | literal (byte : UInt8)
  | copy (length distance : Nat)
deriving DecidableEq, Repr

/-- The least lengths that the length symbols stand for, with the number of bits that add to
them. -/
def lengthBases : List (Nat × Nat) := [
  (3, 0), (4, 0), (5, 0), (6, 0), (7, 0), (8, 0), (9, 0), (10, 0), (11, 1), (13, 1), (15, 1),
  (17, 1), (19, 2), (23, 2), (27, 2), (31, 2), (35, 3), (43, 3), (51, 3), (59, 3), (67, 4),
  (83, 4), (99, 4), (115, 4), (131, 5), (163, 5), (195, 5), (227, 5), (258, 0)]

/-- The least distances that the distance symbols stand for, with the number of bits that add to
them. -/
def distanceBases : List (Nat × Nat) := [
  (1, 0), (2, 0), (3, 0), (4, 0), (5, 1), (7, 1), (9, 2), (13, 2), (17, 3), (25, 3), (33, 4),
  (49, 4), (65, 5), (97, 5), (129, 6), (193, 6), (257, 7), (385, 7), (513, 8), (769, 8),
  (1025, 9), (1537, 9), (2049, 10), (3073, 10), (4097, 11), (6145, 11), (8193, 12), (12289, 12),
  (16385, 13), (24577, 13)]

/-- The codes of blocks that bring none of their own. -/
def fixedCodes : Codes where
  lengths := PrefixCode.ofLengths (List.replicate 144 8 ++ List.replicate 112 9 ++
    List.replicate 24 7 ++ List.replicate 8 8)
  distances := PrefixCode.ofLengths (List.replicate 32 5)

/-- The order in which the lengths of the code for code lengths are given. -/
def codeLengthOrder : List Nat :=
  [16, 17, 18, 0, 8, 7, 9, 6, 10, 5, 11, 4, 12, 3, 13, 2, 14, 1, 15]

/-- The symbol that ends a block. -/
def endOfBlock : Nat := 256

namespace Decoder

/-- A value of a symbol: its base and the bits that add to it. -/
def based (bases : List (Nat × Nat)) (symbol : Nat) : Decoder Nat :=
  match bases[symbol]? with
  | none => throw .damaged
  | some (base, width) => return base + (← number width)

/-- Several numbers of the same width. -/
def numbers (width : Nat) : (count : Nat) → Decoder (List Nat)
  | 0 => return []
  | count + 1 => do
    let first ← number width
    let rest ← numbers width count
    return first :: rest

/-- The code for code lengths: complete, or without codes. -/
def codeLengthCode (count : Nat) : Decoder PrefixCode := do
  let given ← numbers 3 count
  let entries := codeLengthOrder.zip given
  let code := PrefixCode.ofLengths ((List.range 19).map fun symbol =>
    (entries.lookup symbol).getD 0)
  check (code.isComplete || code == [[]])
  return code

/-- One symbol of the code for code lengths. A code without symbols gives zeros, one for each
bit. -/
def codeLengthSymbol (code : PrefixCode) : Decoder Nat :=
  if code = [[]] then do
    let _ ← bit
    return 0
  else code.read

/-- Code lengths until `wanted` of them are read; they are held last first. Lengths may be
repeated. The fuel is at least the number that is still wanted. -/
def codeLengths (code : PrefixCode) (wanted : Nat) : (fuel : Nat) → List Nat → Decoder (List Nat)
  | 0, read => return read.reverse
  | fuel + 1, read => do
    if wanted ≤ read.length then return read.reverse
    else
      let symbol ← codeLengthSymbol code
      if symbol < 16 then codeLengths code wanted fuel (symbol :: read)
      else
        let extra ← number (if symbol = 16 then 2 else if symbol = 17 then 3 else 7)
        check (symbol != 16 || !read.isEmpty)
        let length := if symbol = 16 then read.head?.getD 0 else 0
        let count := extra + if symbol = 18 then 11 else 3
        check (read.length + count ≤ wanted)
        codeLengths code wanted fuel (List.replicate count length ++ read)

/-- The codes that a block brings. -/
def ownCodes : Decoder Codes := do
  let lengthCount := 257 + (← number 5)
  let distanceCount := 1 + (← number 5)
  let codeLengthCount := 4 + (← number 4)
  check (lengthCount ≤ 286 && distanceCount ≤ 30)
  let code ← codeLengthCode codeLengthCount
  let wanted := lengthCount + distanceCount
  let lengths ← codeLengths code wanted wanted []
  check (lengths[endOfBlock]? != some 0)
  let lengthCode := PrefixCode.ofLengths (lengths.take lengthCount)
  check lengthCode.isUsable
  let distanceCode := PrefixCode.ofLengths (lengths.drop lengthCount)
  check distanceCode.isUsable
  return ⟨lengthCode, distanceCode⟩

/-- Where inflating stands behind a block. Data ends with a whole byte. -/
def afterBlock (isLast : Bool) : Decoder Block := do
  if isLast then
    align
    return .finished
  else return .header

/-- The header of a block. -/
def blockHeader : Decoder Block := do
  let isLast := (← bit) == 1
  match ← number 2 with
  | 0 =>
    align
    let length ← number 16
    let complement ← number 16
    check (length + complement == 65535)
    if length = 0 then afterBlock isLast else return .stored length isLast
  | 1 => return .coded fixedCodes isLast
  | 2 => return .coded (← ownCodes) isLast
  | _ => throw .damaged

/-- What the next symbol of a block stands for. -/
def element (codes : Codes) (isLast : Bool) : Decoder (Block × Pending) := do
  let symbol ← codes.lengths.read
  if symbol < endOfBlock then return (.coded codes isLast, .literal (UInt8.ofNat symbol))
  else if symbol = endOfBlock then return (← afterBlock isLast, .nothing)
  else
    let length ← based lengthBases (symbol - 257)
    let distance ← based distanceBases (← codes.distances.read)
    return (.coded codes isLast, .copy length distance)

end Decoder

/-- Inflating under way. -/
structure Inflater where
  /-- The bits that were taken and not used. -/
  bits : Bits := ⟨[], 0⟩
  block : Block := .header
  pending : Pending := .nothing
  /-- All bytes so far. -/
  output : Array UInt8 := #[]
  /-- The bytes that were not handed out yet, last first. -/
  fresh : List UInt8 := []
deriving Repr

/-- How a step of inflating ends. -/
inductive Outcome where
  /-- Something was done. -/
  | going
  /-- Nothing more can be done with the bits at hand. -/
  | short
  /-- Nothing more is to be done. -/
  | still
deriving DecidableEq, Repr

/-- A state, how many bytes are still wanted in it, and how the step to it ended. -/
structure Progress where
  state : Inflater
  wanted : Nat
  outcome : Outcome := .going

namespace Inflater

/-- Copies bytes from a distance; the copy may run into itself. -/
def copyBack (distance : Nat) :
    (count : Nat) → Array UInt8 → List UInt8 → Array UInt8 × List UInt8
  | 0, output, fresh => (output, fresh)
  | count + 1, output, fresh =>
    let byte := output.getD (output.size - distance) 0
    copyBack distance count (output.push byte) (byte :: fresh)

/-- Writes a byte. -/
def writeByte (byte : UInt8) (state : Inflater) : Inflater :=
  { state with
    output := state.output.push byte
    fresh := byte :: state.fresh
    pending := .nothing }

/-- Writes the first bytes of a copy. -/
def writeCopy (length distance count : Nat) : Inflater → Inflater
  | ⟨bits, block, _, output, fresh⟩ =>
    let (output, fresh) := copyBack distance count output fresh
    let pending := if count = length then .nothing else .copy (length - count) distance
    ⟨bits, block, pending, output, fresh⟩

/-- Writes bytes that were stored, of which some are left. -/
def writeStored (left : Nat) (isLast : Bool) (piece : List UInt8) (state : Inflater) : Inflater :=
  { state with
    output := state.output ++ piece
    fresh := piece.reverseAux state.fresh
    bits := ⟨state.bits.bytes.drop piece.length, 0⟩
    block :=
      if piece.length < left then .stored (left - piece.length) isLast
      else if isLast then .finished
      else .header }

/-- Decodes something that gives no byte at once. -/
def decode (state : Inflater) (wanted : Nat) (decoder : Decoder (Block × Pending)) :
    Except Stop Progress :=
  match decoder state.bits with
  | .ok ((block, pending), bits) => .ok ⟨{ state with bits, block, pending }, wanted, .going⟩
  | .error .short => .ok ⟨state, wanted, .short⟩
  | .error .damaged => .error .damaged

/-- One step of inflating: writes what is pending, or decodes further. -/
def advance (state : Inflater) (wanted : Nat) : Except Stop Progress :=
  match state.pending with
  | .literal byte =>
    if wanted = 0 then .ok ⟨state, wanted, .still⟩
    else .ok ⟨state.writeByte byte, wanted - 1, .going⟩
  | .copy length distance =>
    if wanted = 0 then .ok ⟨state, wanted, .still⟩
    else if state.output.size < distance then .error .damaged
    else
      let count := min length wanted
      .ok ⟨state.writeCopy length distance count, wanted - count, .going⟩
  | .nothing =>
    match state.block with
    | .finished => .ok ⟨state, wanted, .still⟩
    | .header =>
      state.decode wanted (Decoder.blockHeader >>= fun block => return (block, .nothing))
    | .stored left isLast =>
      if wanted = 0 then .ok ⟨state, wanted, .still⟩
      else
        let piece := state.bits.bytes.take (min left wanted)
        if piece.isEmpty then .ok ⟨state, wanted, .short⟩
        else .ok ⟨state.writeStored left isLast piece, wanted - piece.length, .going⟩
    | .coded codes isLast => state.decode wanted (Decoder.element codes isLast)

/-- Runs steps until nothing more can or is to be done; says whether bits ran short. -/
def run : (fuel : Nat) → Inflater → (wanted : Nat) → Except Stop (Inflater × Bool)
  | 0, state, _ => .ok (state, false)
  | fuel + 1, state, wanted =>
    match state.advance wanted with
    | .error stop => .error stop
    | .ok ⟨state, wanted, .going⟩ => run fuel state wanted
    | .ok ⟨state, _, .short⟩ => .ok (state, true)
    | .ok ⟨state, _, .still⟩ => .ok (state, false)

/-- What feeding gives: the bytes, those of the data that were not taken, and the state. -/
structure Fed where
  piece : List UInt8
  unused : List UInt8
  state : Inflater

/-- Whether all blocks are inflated. -/
def isFinished (state : Inflater) : Bool :=
  match state.block with
  | .finished => true
  | _ => false

/-- A state with more bits at hand. -/
def supply (data : List UInt8) (state : Inflater) : Inflater :=
  { state with bits := { state.bits with bytes := state.bits.bytes ++ data } }

/-- A state that holds only some of the bytes at hand. -/
def hold (count : Nat) (state : Inflater) : Inflater :=
  { state with bits := { state.bits with bytes := state.bits.bytes.take count } }

/-- Inflates up to the wanted number of bytes from what is held and more data. If bits ran short
all data is taken; otherwise only the byte that was used in part is held. Every step uses a bit or
writes a byte, which bounds the fuel. -/
def feed (state : Inflater) (data : List UInt8) (wanted : Nat) : Except Stop Fed := do
  let start := state.supply data
  let fuel := 8 * start.bits.bytes.length + wanted + 1
  let (⟨bits, block, pending, output, fresh⟩, isShort) ← run fuel start wanted
  let piece := fresh.reverse
  let after : Inflater := ⟨bits, block, pending, output, []⟩
  if isShort then return ⟨piece, [], after⟩
  else
    let held := if after.bits.used = 0 then 0 else 1
    return ⟨piece, after.bits.bytes.drop held, after.hold held⟩

end Inflater

end RegistryMend.Archive
