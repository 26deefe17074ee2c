import RegistryMend.Proofs.Archive.Deflate

/-! # Inflating data that arrives in pieces

An inflater is fed pieces of compressed data and asked for pieces of any size. What it stands
before is the data that its bits and all that is still to come stand for; a step takes a piece off
it, or runs short, and never fails. An inflater that ran short uses all that it holds at its next
step, so at most a part of a byte is kept back between the pieces.
-/

namespace RegistryMend.Archive.Inflater

/-! ## Steps -/

/-- An inflater stands before data that its bits and more bytes stand for. -/
structure Ready (state : Inflater) (more data rest : List UInt8) : Prop where
  sound : state.bits.Sound
  copies : ∀ length distance, state.pending = .copy length distance → 0 < length
  settled : state.isFinished = true → state.pending = .nothing
  inflates : ∃ written later, state.pending.written? state.output.toList = some written ∧
    data = written ++ later ∧
    Inflates state.block (state.bits.extend more) (state.output.toList ++ written) later rest

/-- What the next step needs is more than the bits at hand. -/
def Stuck (state : Inflater) : Prop :=
  state.pending = .nothing ∧
    match state.block with
    | .header => Decoder.blockHeader state.bits = .error .short
    | .stored _ _ => state.bits.bytes = []
    | .coded codes isLast => Decoder.element codes isLast state.bits = .error .short
    | .finished => False

/-- How a step ends for an inflater that stands before data. -/
inductive Advances (state : Inflater) (more data rest : List UInt8) (wanted : Nat) :
    Except Stop Progress → Prop
  | still (done : wanted = 0 ∨ data = [] ∧ state.isFinished = true) :
      Advances state more data rest wanted (.ok ⟨state, wanted, .still⟩)
  | short (coming : more ≠ []) (stuck : state.Stuck) :
      Advances state more data rest wanted (.ok ⟨state, wanted, .short⟩)
  | going {next : Inflater} {piece later : List UInt8} (gives : data = piece ++ later)
      (fits : piece.length ≤ wanted) (fresh : next.fresh = piece.reverse ++ state.fresh)
      (ready : next.Ready more later rest) (fewer : next.bits.count ≤ state.bits.count)
      (less : next.bits.count + (wanted - piece.length) < state.bits.count + wanted) :
      Advances state more data rest wanted (.ok ⟨next, wanted - piece.length, .going⟩)

theorem copyBack_eq (distance count : Nat) (output : Array UInt8) (fresh : List UInt8) :
    (copyBack distance count output fresh).1.toList =
        output.toList ++ copied distance count output.toList ∧
      (copyBack distance count output fresh).2 =
        (copied distance count output.toList).reverse ++ fresh := by
  induction count generalizing output fresh with
  | zero => simp [copyBack, copied]
  | succ count ih =>
    have byte : output.getD (output.size - distance) 0 =
        output.toList.getD (output.toList.length - distance) 0 := by
      simp [Array.getD_eq_getD_getElem?, List.getD_eq_getElem?_getD]
    obtain ⟨written, taken⟩ := ih (output.push (output.getD (output.size - distance) 0))
      (output.getD (output.size - distance) 0 :: fresh)
    rw [copyBack, written, taken, Array.toList_push, byte, copied]
    simp

theorem writeCopy_eq (length distance count : Nat) (state : Inflater) :
    state.writeCopy length distance count =
      { state with
        output := (copyBack distance count state.output state.fresh).1
        fresh := (copyBack distance count state.output state.fresh).2
        pending := if count = length then .nothing else .copy (length - count) distance } := rfl

section

variable {state next : Inflater} {more data rest : List UInt8} {wanted : Nat}

/-- A decoder that would succeed with all that is still to come either succeeds, or is short. -/
theorem decode_cases {decoder : Decoder (Block × Pending)} {least : Nat}
    {block : Block} {pending : Pending} {after : Bits} (wanted : Nat) (sound : state.bits.Sound)
    (streams : decoder.Streams least)
    (whole : decoder (state.bits.extend more) = .ok ((block, pending), after)) :
    (decoder state.bits = .error .short ∧ more ≠ [] ∧
        state.decode wanted decoder = .ok ⟨state, wanted, .short⟩) ∨
      ∃ bits : Bits, after = bits.extend more ∧ bits.Sound ∧
        bits.count + least ≤ state.bits.count ∧
        state.decode wanted decoder =
          .ok ⟨{ state with bits, block, pending }, wanted, .going⟩ := by
  cases run : decoder state.bits with
  | ok result =>
    obtain ⟨⟨block_, pending_⟩, bits⟩ := result
    obtain ⟨sound_, used, extended⟩ := streams.ok sound run
    rw [extended more] at whole
    cases whole
    exact .inr ⟨bits, rfl, sound_, used, by rw [decode, run]⟩
  | error stop =>
    cases stop with
    | short =>
      refine .inl ⟨rfl, ?_, by rw [decode, run]⟩
      rintro rfl
      rw [Bits.extend_nil, run] at whole
      cases whole
    | damaged =>
      rw [streams.damaged sound run more] at whole
      cases whole

theorem advance_literal {byte : UInt8} (ready : state.Ready more data rest)
    (pending : state.pending = .literal byte) :
    Advances state more data rest wanted (state.advance wanted) := by
  obtain ⟨written, later, writes, gives, inflates⟩ := ready.inflates
  rw [pending] at writes
  cases writes
  rw [advance, pending]
  dsimp only
  by_cases none_ : wanted = 0
  · rw [if_pos none_]
    exact .still (.inl none_)
  · rw [if_neg none_]
    refine .going (show data = [byte] ++ later from gives) (by simp; omega) rfl
      ⟨ready.sound, ?_, ?_, ?_⟩ (Nat.le_refl _) ?_
    · rintro length distance ⟨⟩
    · exact fun _ => rfl
    · refine ⟨[], later, rfl, rfl, ?_⟩
      simpa [writeByte] using inflates
    · simp only [writeByte, List.length_singleton]
      omega

/-- Behind a part of a copy the rest of it is to come. -/
theorem ready_writeCopy {length distance count : Nat} {later : List UInt8}
    (sound : state.bits.Sound) (near : distance ≤ state.output.toList.length)
    (few : count ≤ length) (going : state.isFinished = false)
    (inflates : Inflates state.block (state.bits.extend more)
      (state.output.toList ++ copied distance length state.output.toList) later rest) :
    (state.writeCopy length distance count).Ready more
      (copied distance (length - count)
        (state.output.toList ++ copied distance count state.output.toList) ++ later) rest := by
  obtain ⟨output, -⟩ := copyBack_eq distance count state.output state.fresh
  rw [writeCopy_eq]
  refine ⟨sound, fun length_ distance_ left => ?_, ?_, _, later, ?_, rfl, ?_⟩
  · dsimp only at left
    split at left
    · cases left
    · cases left
      omega
  · exact fun finished => absurd finished (Bool.eq_false_iff.mp going)
  · dsimp only
    split
    · next all => rw [all, Nat.sub_self]; rfl
    · rw [output, Pending.written?, if_pos]
      rw [List.length_append]
      omega
  · have parts := copied_add distance count (length - count) state.output.toList
    rw [Nat.add_sub_cancel' few] at parts
    dsimp only
    rw [output, List.append_assoc, ← parts]
    exact inflates

theorem advance_copy {length distance : Nat} (ready : state.Ready more data rest)
    (pending : state.pending = .copy length distance) :
    Advances state more data rest wanted (state.advance wanted) := by
  obtain ⟨written, later, writes, gives, inflates⟩ := ready.inflates
  have some_ := ready.copies length distance pending
  have going : state.isFinished = false := by
    rw [Bool.eq_false_iff]
    intro finished
    rw [ready.settled finished] at pending
    cases pending
  rw [pending, Pending.written?] at writes
  split at writes
  · next near =>
    cases writes
    rw [advance, pending]
    dsimp only
    by_cases none_ : wanted = 0
    · rw [if_pos none_]
      exact .still (.inl none_)
    · rw [if_neg none_, if_neg (by simpa using near)]
      generalize count_eq : min length wanted = count
      have few : count ≤ length := by omega
      obtain ⟨-, fresh⟩ := copyBack_eq distance count state.output state.fresh
      have size := length_copied distance count state.output.toList
      have ready_ := ready_writeCopy ready.sound near few going inflates
      have parts := copied_add distance count (length - count) state.output.toList
      rw [Nat.add_sub_cancel' few] at parts
      rw [parts, List.append_assoc] at gives
      have less : wanted - count = wanted - (copied distance count state.output.toList).length := by
        rw [size]
      rw [less]
      refine .going gives (by omega) fresh ready_ (Nat.le_refl _) ?_
      rw [writeCopy_eq]
      dsimp only
      omega
  · cases writes

theorem drop_append_eq {α : Type} {bytes more piece behind : List α} {count : Nat}
    (whole : bytes ++ more = piece ++ behind) (held : count ≤ bytes.length)
    (few : count ≤ piece.length) :
    piece = bytes.take count ++ piece.drop count ∧
      bytes.drop count ++ more = piece.drop count ++ behind := by
  have first := congrArg (List.take count) whole
  have others := congrArg (List.drop count) whole
  rw [List.take_append_of_le_length held, List.take_append_of_le_length few] at first
  rw [List.drop_append_of_le_length held, List.drop_append_of_le_length few] at others
  exact ⟨by rw [first, List.take_append_drop], others⟩

/-- Behind bytes that were stored, the rest of their block is to come, or what follows it. -/
theorem ready_writeStored {now left behind later : List UInt8} {isLast : Bool}
    (pending : state.pending = .nothing)
    (bytes : state.bits.bytes.drop now.length ++ more = left ++ behind)
    (inflates : Inflates (.behind isLast) ⟨behind, 0⟩ (state.output.toList ++ (now ++ left))
      later rest) :
    (state.writeStored (now.length + left.length) isLast now).Ready more (left ++ later) rest := by
  refine ⟨Bits.sound_whole _, fun length distance copies => ?_, fun _ => pending, [],
    left ++ later, by rw [writeStored, pending]; rfl, rfl, ?_⟩
  · rw [writeStored, pending] at copies
    cases copies
  · have output : (state.writeStored (now.length + left.length) isLast now).output.toList ++ [] =
        state.output.toList ++ now := by
      simp [writeStored]
    have bits : (state.writeStored (now.length + left.length) isLast now).bits.extend more =
        ⟨left ++ behind, 0⟩ := by
      rw [← bytes]
      rfl
    rw [output, bits]
    cases left with
    | nil =>
      have next : (state.writeStored (now.length + 0) isLast now).block = .behind isLast := by
        simp [writeStored, Block.behind]
      rw [List.append_nil] at inflates
      rw [List.length_nil, next]
      exact inflates
    | cons byte left =>
      have next : (state.writeStored (now.length + (byte :: left).length) isLast now).block =
          .stored (byte :: left).length isLast := by
        simp [writeStored]
      rw [next]
      refine .stored (List.cons_ne_nil byte left) ?_
      rwa [List.append_assoc]

theorem advance_stored {left : Nat} {isLast : Bool} (ready : state.Ready more data rest)
    (pending : state.pending = .nothing) (block : state.block = .stored left isLast) :
    Advances state more data rest wanted (state.advance wanted) := by
  obtain ⟨written, later, writes, gives, inflates⟩ := ready.inflates
  rw [pending] at writes
  cases writes
  rw [block] at inflates
  generalize whole : state.bits.extend more = bits at inflates
  cases inflates with
  | @stored piece behind _ later _ _ some_ inflates =>
  rw [List.append_nil] at inflates
  have used : state.bits.used = 0 := congrArg Bits.used whole
  have bytes : state.bits.bytes ++ more = piece ++ behind := congrArg Bits.bytes whole
  have positive : 0 < piece.length := List.length_pos_iff.mpr some_
  rw [advance, pending, block]
  dsimp only
  by_cases none_ : wanted = 0
  · rw [if_pos none_]
    exact .still (.inl none_)
  · rw [if_neg none_]
    by_cases empty : state.bits.bytes = []
    · rw [empty, List.take_nil, List.isEmpty_nil, if_pos rfl]
      refine .short ?_ ⟨pending, by rw [block]; exact empty⟩
      rintro rfl
      rw [empty, List.append_nil] at bytes
      exact some_ (List.append_eq_nil_iff.mp bytes.symm).1
    · have held : 0 < state.bits.bytes.length := List.length_pos_iff.mpr empty
      generalize now_eq : state.bits.bytes.take (min piece.length wanted) = now
      have size : now.length = min (min piece.length wanted) state.bits.bytes.length := by
        rw [← now_eq, List.length_take]
      have some__ : now.isEmpty = false := by
        rw [List.isEmpty_eq_false_iff, ← List.length_pos_iff]
        omega
      have held_ : now.length ≤ state.bits.bytes.length := by omega
      have now_ : state.bits.bytes.take now.length = now := by
        rw [← List.prefix_iff_eq_take.mp (now_eq ▸ List.take_prefix _ _)]
      obtain ⟨parts, others⟩ := drop_append_eq bytes held_ (by omega)
      rw [now_] at parts
      generalize piece.drop now.length = left at parts others
      subst parts
      rw [some__, if_neg Bool.false_ne_true, List.length_append]
      refine .going (gives.trans (List.append_assoc ..)) (by omega) List.reverseAux_eq
        (ready_writeStored pending others inflates) ?_ ?_
      · simp only [writeStored, Bits.count, used, List.length_drop]
        omega
      · simp only [writeStored, Bits.count, used, List.length_drop]
        omega

theorem advance_header (ready : state.Ready more data rest) (pending : state.pending = .nothing)
    (block : state.block = .header) :
    Advances state more data rest wanted (state.advance wanted) := by
  obtain ⟨written, later, writes, gives, inflates⟩ := ready.inflates
  rw [pending] at writes
  cases writes
  rw [block] at inflates
  generalize whole : state.bits.extend more = bits at inflates
  cases inflates with
  | @header _ after block_ _ _ _ read inflates =>
  rw [← whole] at read
  have streams : (Decoder.blockHeader >>= fun block => return (block, Pending.nothing)).Streams 3 :=
    Decoder.streams_blockHeader.bind fun block => Decoder.streams_pure (block, Pending.nothing)
  have read_ : (Decoder.blockHeader >>= fun block => return (block, Pending.nothing))
      (state.bits.extend more) = .ok ((block_, .nothing), after) := by
    rw [Decoder.bind_apply, read]
    rfl
  rw [advance, pending, block]
  dsimp only
  obtain ⟨short, coming, decoded⟩ | ⟨rest_, isAfter, sound, used, decoded⟩ :=
    decode_cases wanted ready.sound streams read_
  · rw [decoded]
    refine .short coming ⟨pending, ?_⟩
    rw [block]
    dsimp only
    rw [Decoder.bind_apply] at short
    cases run : Decoder.blockHeader state.bits with
    | ok result => rw [run] at short; cases short
    | error stop => rw [run] at short; cases short; rfl
  · rw [decoded]
    refine .going (show data = [] ++ later from gives) (Nat.zero_le _) rfl
      ⟨sound, ?_, fun _ => rfl, ?_⟩ (by dsimp only; omega) (by dsimp only [List.length_nil]; omega)
    · rintro length distance ⟨⟩
    · rw [isAfter] at inflates
      exact ⟨[], later, rfl, rfl, by simpa only [List.append_nil] using inflates⟩

theorem advance_coded {codes : Codes} {isLast : Bool} (ready : state.Ready more data rest)
    (pending : state.pending = .nothing) (block : state.block = .coded codes isLast) :
    Advances state more data rest wanted (state.advance wanted) := by
  obtain ⟨written, later, writes, gives, inflates⟩ := ready.inflates
  rw [pending] at writes
  cases writes
  rw [block] at inflates
  generalize whole : state.bits.extend more = bits at inflates
  cases inflates with
  | @element _ after _ _ block_ pending_ written_ _ later_ _ read writes inflates =>
  rw [← whole] at read
  rw [advance, pending, block]
  dsimp only
  obtain ⟨short, coming, decoded⟩ | ⟨rest_, isAfter, sound, used, decoded⟩ :=
    decode_cases wanted ready.sound (Decoder.streams_element codes isLast) read
  · rw [decoded]
    exact .short coming ⟨pending, by rw [block]; exact short⟩
  · rw [decoded]
    refine .going (show data = [] ++ _ from gives) (Nat.zero_le _) rfl ⟨sound, ?_, ?_, ?_⟩
      (by dsimp only; omega) (by dsimp only [List.length_nil]; omega)
    · rintro length distance rfl
      exact (Decoder.element_copy (ready.sound.extend more) read).1
    · intro finished
      rcases Decoder.element_pending read with nothing | rfl
      · exact nothing
      · cases finished
    · rw [isAfter] at inflates
      rw [List.append_nil] at writes inflates
      exact ⟨written_, later_, writes, rfl, inflates⟩

theorem advance_finished (ready : state.Ready more data rest) (pending : state.pending = .nothing)
    (block : state.block = .finished) :
    Advances state more data rest wanted (state.advance wanted) := by
  obtain ⟨written, later, writes, gives, inflates⟩ := ready.inflates
  rw [pending] at writes
  cases writes
  rw [block] at inflates
  generalize whole : state.bits.extend more = bits at inflates
  cases inflates
  rw [advance, pending, block]
  exact .still (.inr ⟨gives, by rw [isFinished, block]⟩)

/-- A step takes a piece off the data, or does not find the bits for that. -/
theorem advances (wanted : Nat) (ready : state.Ready more data rest) :
    Advances state more data rest wanted (state.advance wanted) := by
  cases pending : state.pending with
  | literal byte => exact advance_literal ready pending
  | copy length distance => exact advance_copy ready pending
  | nothing =>
    cases block : state.block with
    | header => exact advance_header ready pending block
    | stored left isLast => exact advance_stored ready pending block
    | coded codes isLast => exact advance_coded ready pending block
    | finished => exact advance_finished ready pending block

theorem Stuck.not_finished (stuck : state.Stuck) : state.isFinished = false := by
  cases block : state.block with
  | finished =>
    have blocked := stuck.2
    rw [block] at blocked
    exact blocked.elim
  | _ => rw [isFinished, block]

/-- A stuck inflater uses all its bits at the next step. -/
theorem Stuck.taken {window : List UInt8} {left : Nat} (stuck : state.Stuck)
    (sound : state.bits.Sound)
    (step : (state.supply window).advance wanted = .ok ⟨next, left, .going⟩) :
    next.bits.bytes.length ≤ window.length := by
  obtain ⟨pending, blocked⟩ := stuck
  have decoded {decoder : Decoder (Block × Pending)} {least : Nat} (streams : decoder.Streams least)
      (short : decoder state.bits = .error .short)
      (step : (state.supply window).decode wanted decoder = .ok ⟨next, left, .going⟩) :
      next.bits.bytes.length ≤ window.length := by
    rw [decode] at step
    cases run : decoder (state.supply window).bits with
    | error stop => rw [run] at step; cases stop <;> cases step
    | ok result =>
      rw [run] at step
      cases step
      exact streams.short sound short run
  have idle : (state.supply window).pending = .nothing := pending
  cases block : state.block with
  | header =>
    have same : (state.supply window).block = .header := block
    rw [block] at blocked
    rw [advance, idle, same] at step
    refine decoded (Decoder.streams_blockHeader.bind fun block =>
      Decoder.streams_pure (block, Pending.nothing)) ?_ step
    rw [Decoder.bind_apply, blocked]
  | stored left isLast =>
    have same : (state.supply window).block = .stored left isLast := block
    rw [block] at blocked
    rw [advance, idle, same] at step
    dsimp only at step
    split at step
    · cases step
    · split at step
      · cases step
      · cases step
        simp [writeStored, supply, blocked]
  | coded codes isLast =>
    have same : (state.supply window).block = .coded codes isLast := block
    rw [block] at blocked
    rw [advance, idle, same] at step
    exact decoded (Decoder.streams_element codes isLast) blocked step
  | finished =>
    rw [block] at blocked
    exact blocked.elim

/-! ## Runs -/

/-- How a run ends for an inflater that stands before data. -/
structure RunsTo (state : Inflater) (more data rest : List UInt8) (wanted : Nat) (final : Inflater)
    (isShort : Bool) (piece later : List UInt8) : Prop where
  gives : data = piece ++ later
  fits : piece.length ≤ wanted
  fresh : final.fresh = piece.reverse ++ state.fresh
  ready : final.Ready more later rest
  fewer : final.bits.count ≤ state.bits.count
  steps : final = state ∨ ∃ next left, state.advance wanted = .ok ⟨next, left, .going⟩ ∧
    final.bits.count ≤ next.bits.count
  short : isShort = true → more ≠ [] ∧ final.Stuck
  still : isShort = false → piece.length = wanted ∨ later = [] ∧ final.isFinished = true

theorem exists_runsTo {fuel : Nat} (ready : state.Ready more data rest)
    (enough : state.bits.count + wanted < fuel) :
    ∃ final isShort piece later, run fuel state wanted = .ok (final, isShort) ∧
      RunsTo state more data rest wanted final isShort piece later := by
  induction fuel generalizing state data wanted with
  | zero => omega
  | succ fuel ih =>
    have step := advances wanted ready
    rw [run]
    generalize advanced : state.advance wanted = progress at step
    cases step with
    | still done =>
      refine ⟨state, false, [], data, rfl, rfl, Nat.zero_le _, rfl, ready, Nat.le_refl _, .inl rfl,
        nofun, fun _ => ?_⟩
      rcases done with rfl | ⟨nothing, finished⟩
      · exact .inl rfl
      · exact .inr ⟨nothing, finished⟩
    | short coming stuck =>
      exact ⟨state, true, [], data, rfl, rfl, Nat.zero_le _, rfl, ready, Nat.le_refl _, .inl rfl,
        fun _ => ⟨coming, stuck⟩, nofun⟩
    | @going next first later gives fits fresh ready_ fewer less =>
      obtain ⟨final, isShort, piece, last, ran, ends⟩ :=
        ih ready_ (show next.bits.count + (wanted - first.length) < fuel by omega)
      have fits_ := ends.fits
      refine ⟨final, isShort, first ++ piece, last, ran, ?_, ?_, ?_, ends.ready,
        Nat.le_trans ends.fewer fewer, .inr ⟨next, _, advanced, ends.fewer⟩, ends.short,
        fun still => ?_⟩
      · rw [gives, ends.gives, List.append_assoc]
      · rw [List.length_append]
        omega
      · rw [ends.fresh, fresh, List.reverse_append, List.append_assoc]
      · refine (ends.still still).imp_left fun all => ?_
        rw [List.length_append]
        omega

/-! ## Feeding -/

/-- Between two feedings less than a byte is held, unless the inflater is stuck. -/
def Tight (state : Inflater) : Prop :=
  state.bits.count < 8 ∨ state.Stuck

/-- What feeding gives for an inflater that stands before data: a piece of it. A piece is empty
only at the end of the data, or where all that was fed is held for what comes behind it. -/
structure Feeds (window beyond data rest : List UInt8) (wanted : Nat) (fed : Fed)
    (later : List UInt8) : Prop where
  gives : data = fed.piece ++ later
  fits : fed.piece.length ≤ wanted
  ready : fed.state.Ready (fed.unused ++ beyond) later rest
  fresh : fed.state.fresh = []
  tight : fed.state.Tight
  unused : fed.unused.length ≤ window.length
  empty : fed.piece = [] → later = [] ∧ fed.state.isFinished = true ∨
    fed.unused = [] ∧ beyond ≠ []

/-- What is at hand after a run that was fed: all of it if the run was short, and otherwise the byte
that was used in part. -/
def handBack (isShort : Bool) (final : Inflater) : Fed :=
  let after : Inflater := { final with fresh := [] }
  let held := if final.bits.used = 0 then 0 else 1
  if isShort then ⟨final.fresh.reverse, [], after⟩
  else ⟨final.fresh.reverse, final.bits.bytes.drop held, after.hold held⟩

theorem feed_of_run {final : Inflater} {isShort : Bool} {window : List UInt8}
    (ran : run (8 * (state.supply window).bits.bytes.length + wanted + 1) (state.supply window)
      wanted = .ok (final, isShort)) :
    state.feed window wanted = .ok (handBack isShort final) := by
  rw [feed]
  dsimp only
  rw [ran]
  cases isShort <;> rfl

theorem piece_handBack (isShort : Bool) (final : Inflater) :
    (handBack isShort final).piece = final.fresh.reverse := by
  cases isShort <;> rfl

theorem fresh_handBack (isShort : Bool) (final : Inflater) :
    (handBack isShort final).state.fresh = [] := by
  cases isShort <;> rfl

/-- Nothing is lost between what is held and what is handed back. -/
theorem ready_handBack (isShort : Bool) (ready : state.Ready more data rest) :
    (handBack isShort state).state.Ready ((handBack isShort state).unused ++ more) data rest := by
  cases isShort with
  | true => exact ⟨ready.sound, ready.copies, ready.settled, ready.inflates⟩
  | false =>
    let held := if state.bits.used = 0 then 0 else 1
    have sound : Bits.Sound ⟨state.bits.bytes.take held, state.bits.used⟩ := by
      refine ⟨ready.sound.used_lt, fun empty => ?_⟩
      rcases List.take_eq_nil_iff.mp empty with none_ | none_
      · by_contra used
        rw [show held = 1 from if_neg used] at none_
        cases none_
      · exact ready.sound.used_eq none_
    refine ⟨sound, ready.copies, ready.settled, ?_⟩
    obtain ⟨written, later, writes, gives, inflates⟩ := ready.inflates
    refine ⟨written, later, writes, gives, ?_⟩
    have bits : (handBack false state).state.bits.extend
        ((handBack false state).unused ++ more) = state.bits.extend more := by
      simp [handBack, hold, Bits.extend, ← List.append_assoc]
    rw [bits]
    exact inflates

theorem exists_feeds {window beyond : List UInt8} (ready : state.Ready (window ++ beyond) data rest)
    (fresh : state.fresh = []) (tight : state.Tight) (some_ : 0 < wanted) :
    ∃ fed later, state.feed window wanted = .ok fed ∧
      Feeds window beyond data rest wanted fed later := by
  have start : (state.supply window).Ready beyond data rest := by
    refine ⟨ready.sound.extend window, ready.copies, ready.settled, ?_⟩
    obtain ⟨written, later, writes, gives, inflates⟩ := ready.inflates
    rw [← Bits.extend_extend] at inflates
    exact ⟨written, later, writes, gives, inflates⟩
  have enough : (state.supply window).bits.count + wanted <
      8 * (state.supply window).bits.bytes.length + wanted + 1 := by
    simp only [Bits.count]
    omega
  obtain ⟨final, isShort, piece, later, ran, ends⟩ := exists_runsTo start enough
  have sound := ends.ready.sound
  have isPiece : (handBack isShort final).piece = piece := by
    have nothing : (state.supply window).fresh = [] := fresh
    rw [piece_handBack, ends.fresh, nothing, List.append_nil, List.reverse_reverse]
  -- the bits that are left stand in what was fed now and one byte more
  have few : isShort = false → final.bits.count < 8 * window.length + 8 := by
    intro still
    rcases tight with low | stuck
    · have whole := ready.sound.count_extend window
      have := ends.fewer
      simp only [supply] at this
      simp only [Bits.extend] at whole
      omega
    · rcases ends.steps with same | ⟨next, left, step, fewer⟩
      · have nothing : piece = [] := by
          have fresh_ := ends.fresh
          rw [same] at fresh_
          simpa using fresh_
        rcases ends.still still with all | ⟨-, finished⟩
        · rw [nothing, List.length_nil] at all
          omega
        · rw [same] at finished
          exact absurd finished (Bool.eq_false_iff.mp stuck.not_finished)
      · have taken := stuck.taken ready.sound step
        simp only [Bits.count] at fewer ⊢
        omega
  refine ⟨handBack isShort final, later, feed_of_run ran, ?_, ?_, ready_handBack isShort ends.ready,
    fresh_handBack isShort final, ?_, ?_, ?_⟩
  · rw [isPiece]
    exact ends.gives
  · rw [isPiece]
    exact ends.fits
  · cases isShort with
    | true => exact .inr (ends.short rfl).2
    | false =>
      refine .inl ?_
      simp only [handBack, hold, Bits.count, List.length_take, Bool.false_eq_true, if_false]
      split <;> omega
  · cases isShort with
    | true => exact Nat.zero_le _
    | false =>
      have low := few rfl
      have := sound.used_lt
      simp only [Bits.count] at low
      simp only [handBack, List.length_drop, Bool.false_eq_true, if_false]
      split <;> omega
  · intro empty
    rw [isPiece] at empty
    cases isShort with
    | true => exact .inr ⟨rfl, (ends.short rfl).1⟩
    | false =>
      rcases ends.still rfl with all | ⟨nothing, finished⟩
      · rw [empty, List.length_nil] at all
        omega
      · exact .inl ⟨nothing, finished⟩

end

end RegistryMend.Archive.Inflater
