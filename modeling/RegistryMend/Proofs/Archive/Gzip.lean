import RegistryMend.Archive.Gzip
import RegistryMend.Proofs.Archive.Inflating
import RegistryMend.Proofs.Sequencing

/-! # Reading an intact compressed file

An intact file consists of members, each with a header, compressed data, and a trailer that fits
the data. Reading it gives the data of its members in pieces, whatever the sizes that are asked for,
and a seek leads to any place in it.
-/

namespace RegistryMend.Archive

open RegistryMend.Digest (crc32 crcUpdate)

/-! ## Intact files -/

/-- Bytes are members, one after the other, that stand for data. -/
inductive Gzipped : (bytes data : List UInt8) → Prop
  | nil : Gzipped [] []
  | member {bytes compressed trailer rest piece data : List UInt8}
      (header : memberHeader bytes = .ok (some compressed))
      (inflates : Inflates .header ⟨compressed, 0⟩ [] piece trailer)
      (sealed : memberTrailer ⟨{}, crc32 piece, piece.length⟩ trailer = .ok rest)
      (later : Gzipped rest data) : Gzipped bytes (piece ++ data)

theorem takeExact_eq_ok {count : Nat} {bytes taken rest : List UInt8}
    (run : takeExact count bytes = .ok (taken, rest)) : rest.length + count = bytes.length := by
  rw [takeExact] at run
  split at run
  · next all =>
    cases run
    rw [List.length_take] at all
    rw [List.length_drop]
    omega
  · cases run

theorem length_skipText_le (bytes : List UInt8) : (skipText bytes).length ≤ bytes.length := by
  rw [skipText, List.length_tail]
  have := (List.dropWhile_sublist (fun byte : UInt8 => decide (byte ≠ 0)) (l := bytes)).length_le
  omega

theorem length_le_of_skipOptional {flags : HeaderFlags} {bytes rest : List UInt8}
    (run : skipOptional flags bytes = .ok rest) : rest.length ≤ bytes.length := by
  have skipped (condition : Bool) (bytes : List UInt8) :
      (if condition then skipText bytes else bytes).length ≤ bytes.length := by
    split
    · exact length_skipText_le bytes
    · exact Nat.le_refl _
  have others {bytes rest : List UInt8}
      (run : skipOptional { flags with hasExtra := false } bytes = .ok rest) :
      rest.length ≤ bytes.length := by
    have names := skipped flags.hasName bytes
    have comments := skipped flags.hasComment (if flags.hasName then skipText bytes else bytes)
    simp only [skipOptional, pure_bind, Bool.false_eq_true, if_false] at run
    split at run
    · obtain ⟨checksum, taken, run⟩ := bind_eq_ok_iff.mp run
      cases run
      have := takeExact_eq_ok taken
      omega
    · cases run
      omega
  by_cases extra : flags.hasExtra
  · have parts : skipOptional flags bytes = (do
        let size ← takeExact 2 bytes
        let field ← takeExact (ofLittleEndian size.1) size.2
        skipOptional { flags with hasExtra := false } field.2) := by
      simp [skipOptional, extra]
    rw [parts] at run
    obtain ⟨size, sized, run⟩ := bind_eq_ok_iff.mp run
    obtain ⟨field, taken, run⟩ := bind_eq_ok_iff.mp run
    have := takeExact_eq_ok sized
    have := takeExact_eq_ok taken
    have := others run
    omega
  · have same : flags = { flags with hasExtra := false } := by
      rw [Bool.not_eq_true] at extra
      rw [← extra]
    rw [same] at run
    exact others run

theorem length_lt_of_memberHeader {bytes compressed : List UInt8}
    (run : memberHeader bytes = .ok (some compressed)) : compressed.length < bytes.length := by
  unfold memberHeader at run
  split at run
  · cases run
  · next flags _ _ _ _ _ _ rest =>
    cases skipped : skipOptional (.ofByte flags) rest with
    | error fault => rw [skipped] at run; cases run
    | ok behind =>
      rw [skipped] at run
      cases run
      have := length_le_of_skipOptional skipped
      simp only [List.length_cons]
      omega
  · cases run

theorem length_lt_of_memberTrailer {member : Member} {bytes rest : List UInt8}
    (run : memberTrailer member bytes = .ok rest) : rest.length < bytes.length := by
  rw [memberTrailer] at run
  cases taken : takeExact 8 bytes with
  | error fault => rw [taken] at run; cases run
  | ok result =>
    rw [taken] at run
    have := takeExact_eq_ok taken
    dsimp only [bind, Except.bind] at run
    split at run
    · cases run
      have := (List.dropWhile_sublist (fun byte : UInt8 => decide (byte = 0))
        (l := result.2)).length_le
      omega
    · cases run

/-- A compressed file stands for at most 1032 bytes for each of its own. -/
theorem Gzipped.length_le {bytes data : List UInt8} (gzipped : Gzipped bytes data) :
    data.length ≤ 1032 * bytes.length := by
  induction gzipped with
  | nil => exact Nat.zero_le _
  | member header inflates sealed _ ih =>
    have := length_lt_of_memberHeader header
    have := inflates.length_le (Bits.sound_whole _)
    have := length_lt_of_memberTrailer sealed
    simp only [Bits.count, List.length_append] at *
    omega

theorem crcUpdate_nil (check : UInt32) : crcUpdate check [] = check := by
  simp [crcUpdate]

theorem crcUpdate_append (check : UInt32) (first second : List UInt8) :
    crcUpdate check (first ++ second) = crcUpdate (crcUpdate check first) second := by
  simp [crcUpdate, List.foldl_append]

/-! ## Rounds -/

/-- The bytes that were not taken and the member that is being read stand before data. -/
inductive Awaits : (rest : List UInt8) → Option Member → (data : List UInt8) → Prop
  | between {rest data : List UInt8} (later : Gzipped rest data) : Awaits rest none data
  | within {rest trailer behind piece data : List UInt8} {member : Member}
      (ready : member.inflater.Ready rest piece trailer) (fresh : member.inflater.fresh = [])
      (tight : member.inflater.Tight)
      (sealed : memberTrailer ⟨{}, crcUpdate member.check piece, member.length + piece.length⟩
        trailer = .ok behind)
      (later : Gzipped behind data) : Awaits rest (some member) (piece ++ data)

/-- A member at its end is followed by its trailer. -/
theorem Inflater.Ready.of_finished {state : Inflater} {more data rest : List UInt8}
    (ready : state.Ready more data rest) (tight : state.Tight)
    (finished : state.isFinished = true) : data = [] ∧ rest = more := by
  obtain ⟨written, later, writes, gives, inflates⟩ := ready.inflates
  rw [ready.settled finished] at writes
  cases writes
  have block : state.block = .finished := by
    rw [isFinished] at finished
    split at finished
    · assumption
    · cases finished
  rw [block] at inflates
  generalize whole : state.bits.extend more = bits at inflates
  cases inflates
  have used : state.bits.used = 0 := congrArg Bits.used whole
  have bytes : state.bits.bytes ++ more = rest := congrArg Bits.bytes whole
  have none_ : state.bits.bytes = [] := by
    rcases tight with low | stuck
    · rw [← List.length_eq_zero_iff]
      simp only [Bits.count, used] at low
      omega
    · rw [stuck.not_finished] at finished
      cases finished
  rw [none_, List.nil_append] at bytes
  exact ⟨gives, bytes.symm⟩

theorem ready_start {compressed piece trailer : List UInt8}
    (inflates : Inflates .header ⟨compressed, 0⟩ [] piece trailer) :
    Inflater.Ready {} compressed piece trailer where
  sound := Bits.sound_whole []
  copies := nofun
  settled := nofun
  inflates := ⟨[], piece, rfl, rfl, inflates⟩

/-- A bound on the rounds that may give nothing. -/
def emptyRounds (rest : List UInt8) : Option Member → Nat
  | none => 2 * rest.length
  | some member => 2 * rest.length + if member.inflater.isFinished then 0 else 1

/-- A member that was fed. -/
def Member.afterFed (member : Member) (fed : Inflater.Fed) : Member :=
  ⟨fed.state, crcUpdate member.check fed.piece, member.length + fed.piece.length⟩

/-- A round gives a piece of the data ahead, or takes something of the file. -/
structure Round (rest : List UInt8) (member : Member) (ahead : List UInt8) (wanted : Nat)
    (fed : Inflater.Fed) (later : List UInt8) : Prop where
  gives : ahead = fed.piece ++ later
  fits : fed.piece.length ≤ wanted
  awaits : Awaits (fed.unused ++ rest.drop windowSize) (some (member.afterFed fed)) later
  less : (fed.unused ++ rest.drop windowSize).length ≤ rest.length
  empty : fed.piece = [] → rest.take windowSize ≠ [] ∧
    emptyRounds (fed.unused ++ rest.drop windowSize) (some (member.afterFed fed)) ≤ 2 * rest.length

theorem exists_round {rest ahead : List UInt8} {member : Member} {wanted : Nat}
    (awaits : Awaits rest (some member) ahead) (some_ : 0 < wanted) :
    ∃ fed later, member.inflater.feed (rest.take windowSize) wanted = .ok fed ∧
      Round rest member ahead wanted fed later := by
  cases awaits with
  | @within trailer behind piece others _ ready fresh tight sealed later =>
  have parts := List.take_append_drop windowSize rest
  rw [← parts] at ready
  obtain ⟨fed, last, feeds, fits⟩ := Inflater.exists_feeds ready fresh tight some_
  have sealed_ : memberTrailer ⟨{}, crcUpdate (member.afterFed fed).check last,
      (member.afterFed fed).length + last.length⟩ trailer = .ok behind := by
    rw [Member.afterFed, ← crcUpdate_append, Nat.add_assoc, ← List.length_append, ← fits.gives]
    exact sealed
  have sizes := congrArg List.length parts
  have unused := fits.unused
  rw [List.length_append] at sizes
  refine ⟨fed, last ++ others, feeds, ?_, fits.fits,
    .within fits.ready fits.fresh fits.tight sealed_ later, ?_, fun nothing => ?_⟩
  · rw [fits.gives, List.append_assoc]
  · rw [List.length_append]
    omega
  · rcases fits.empty nothing with ⟨-, finished⟩ | ⟨none_, beyond⟩
    · -- the trailer is still to come
      have less := length_lt_of_memberTrailer sealed
      rw [(fits.ready.of_finished fits.tight finished).2, List.length_append] at less
      refine ⟨fun empty => ?_, ?_⟩
      · rw [empty, List.length_nil] at unused
        rw [List.take_eq_nil_iff] at empty
        rw [empty.resolve_left (by decide), List.drop_nil, List.length_nil] at less
        omega
      · simp only [emptyRounds, Member.afterFed, finished, if_true, List.length_append]
        omega
    · have some__ := List.length_pos_iff.mpr beyond
      rw [List.length_drop] at some__
      refine ⟨fun empty => ?_, ?_⟩
      · rw [List.take_eq_nil_iff] at empty
        rw [empty.resolve_left (by decide), List.length_nil] at some__
        omega
      · have : 0 < windowSize := by decide
        simp only [emptyRounds, none_, List.nil_append, List.length_drop]
        split <;> omega

namespace GzipFile

/-- What is entered is the end of the file or a member that goes on. -/
inductive Enters (file : GzipFile) (data : List UInt8) :
    Except ArchiveFault (GzipFile × Option Member) → Prop
  | finished {rest : List UInt8} (none_ : data = []) (awaits : Awaits rest none [])
      (less : rest.length ≤ file.rest.length) :
      Enters file data (.ok ({ file with rest, member := none }, none))
  | member {rest : List UInt8} {member : Member} (awaits : Awaits rest (some member) data)
      (goes : member.inflater.isFinished = false) (less : rest.length ≤ file.rest.length)
      (rounds : 2 * rest.length + 1 ≤ emptyRounds file.rest file.member) :
      Enters file data (.ok ({ file with rest, member := none }, some member))

theorem enters {file : GzipFile} {data : List UInt8}
    (awaits : Awaits file.rest file.member data) : Enters file data file.enterMember := by
  -- between two members the next header decides
  have between {rest : List UInt8} (gzipped : Gzipped rest data)
      (less : rest.length ≤ file.rest.length)
      (rounds : 2 * rest.length ≤ emptyRounds file.rest file.member) :
      Enters file data { file with rest, member := none }.enterMember := by
    rw [enterMember]
    dsimp only
    cases gzipped with
    | nil => exact .finished rfl (.between .nil) less
    | member header inflates sealed later =>
      rw [header]
      have taken := length_lt_of_memberHeader header
      refine .member (.within (ready_start inflates) rfl (.inl (by decide)) ?_ later) rfl
        (by omega) (by omega)
      rw [Nat.zero_add]
      exact sealed
  rw [enterMember]
  cases present : file.member with
  | none =>
    rw [present] at awaits
    generalize bytes : file.rest = rest at awaits
    cases awaits with
    | between later =>
      refine between later (Nat.le_of_eq (by rw [bytes])) ?_
      exact Nat.le_of_eq (by rw [present, emptyRounds, bytes])
  | some member =>
    rw [present] at awaits
    generalize bytes : file.rest = rest at awaits
    cases awaits with
    | within ready fresh tight sealed later =>
      dsimp only
      cases finished : member.inflater.isFinished with
      | false =>
        rw [if_neg Bool.false_ne_true]
        refine .member (.within ready fresh tight sealed later) finished
          (Nat.le_of_eq (by rw [bytes])) (Nat.le_of_eq ?_)
        rw [present, emptyRounds, finished, bytes]
        rfl
      | true =>
        obtain ⟨rfl, rfl⟩ := ready.of_finished tight finished
        rw [crcUpdate_nil, List.length_nil, Nat.add_zero] at sealed
        have less := length_lt_of_memberTrailer sealed
        have sealed_ : memberTrailer member _ = .ok _ := sealed
        rw [if_pos rfl, sealed_]
        refine between later (by rw [bytes]; omega) ?_
        rw [present, emptyRounds, finished, bytes]
        simp only [if_true]
        omega

/-! ## Reading and seeking -/

/-- A file stands at its position in its data. -/
structure At (file : GzipFile) (data : List UInt8) : Prop where
  whole : Gzipped file.whole data
  size : file.size = file.whole.length
  rest : file.rest.length ≤ file.size
  position : file.position ≤ data.length
  awaits : Awaits file.rest file.member (data.drop file.position)

/-- A file that gave a piece of its data stands behind it. -/
structure Gives (file : GzipFile) (data : List UInt8) (piece : List UInt8) (after : GzipFile) :
    Prop where
  stands : after.At data
  same : after.whole = file.whole
  gives : data.drop file.position = piece ++ data.drop after.position
  position : after.position = file.position + piece.length

variable {file : GzipFile} {data : List UInt8} {wanted : Nat}

theorem at_ofBytes {bytes : List UInt8} (gzipped : Gzipped bytes data) : (ofBytes bytes).At data :=
  ⟨gzipped, rfl, Nat.le_refl _, Nat.zero_le _, .between gzipped⟩

/-- The file behind a round. -/
def afterRound (file : GzipFile) (rest : List UInt8) (member : Member) (fed : Inflater.Fed) :
    GzipFile :=
  { file with
    rest := fed.unused ++ rest.drop windowSize
    member := some (member.afterFed fed)
    position := file.position + fed.piece.length }

theorem at_afterRound {rest later : List UInt8} {member : Member} {fed : Inflater.Fed}
    (stands : file.At data) (less : rest.length ≤ file.rest.length)
    (round : Round rest member (data.drop file.position) wanted fed later) :
    (file.afterRound rest member fed).At data ∧
      data.drop (file.position + fed.piece.length) = later := by
  have behind : data.drop (file.position + fed.piece.length) = later := by
    rw [← List.drop_drop, round.gives, List.drop_left]
  have inside : file.position + fed.piece.length ≤ data.length := by
    have sizes := congrArg List.length round.gives
    have := stands.position
    rw [List.length_drop, List.length_append] at sizes
    omega
  exact ⟨⟨stands.whole, stands.size, Nat.le_trans (Nat.le_trans round.less less) stands.rest,
    inside, behind.symm ▸ round.awaits⟩, behind⟩

theorem Gives.refl (stands : file.At data) : Gives file data [] file :=
  ⟨stands, rfl, rfl, rfl⟩

theorem Gives.trans {middle after : GzipFile} {first second : List UInt8}
    (gives : Gives file data first middle) (gives_ : Gives middle data second after) :
    Gives file data (first ++ second) after := by
  refine ⟨gives_.stands, gives_.same.trans gives.same, ?_, ?_⟩
  · rw [gives.gives, gives_.gives, List.append_assoc]
  · rw [gives_.position, gives.position, List.length_append, Nat.add_assoc]

theorem exists_readRounds {fuel : Nat} (some_ : 0 < wanted) (stands : file.At data)
    (enough : emptyRounds file.rest file.member < fuel) :
    ∃ piece after, file.readRounds wanted fuel = .ok (piece, after) ∧ Gives file data piece after ∧
      piece.length ≤ wanted ∧ (piece = [] → data.drop file.position = []) := by
  induction fuel generalizing file with
  | zero => omega
  | succ fuel ih =>
    have entered := enters stands.awaits
    rw [readRounds]
    generalize file.enterMember = entrance at entered
    cases entered with
    | finished none_ awaits less =>
      refine ⟨[], _, rfl, ⟨⟨stands.whole, stands.size, Nat.le_trans less stands.rest,
        stands.position, ?_⟩, rfl, rfl, rfl⟩, Nat.zero_le _, fun _ => none_⟩
      rw [none_]
      exact awaits
    | @member rest member awaits goes less rounds =>
      obtain ⟨fed, later, feeds, round⟩ := exists_round awaits some_
      obtain ⟨stands_, behind⟩ := at_afterRound stands less round
      dsimp only
      rw [feeds]
      dsimp only
      by_cases given : fed.piece = []
      · obtain ⟨window, fewer⟩ := round.empty given
        obtain ⟨piece, after, ran, gives, fits, empty⟩ :=
          ih stands_ (by simp only [afterRound]; omega)
        have same : (file.afterRound rest member fed).position = file.position := by
          rw [afterRound, given]
          rfl
        refine ⟨piece, after, ?_, ⟨gives.stands, gives.same, same ▸ gives.gives,
          same ▸ gives.position⟩, fits, same ▸ empty⟩
        rw [if_neg (by simp [given]), if_neg (by simpa using window)]
        exact ran
      · refine ⟨fed.piece, file.afterRound rest member fed, ?_, ⟨stands_, rfl, ?_, rfl⟩,
          round.fits, fun empty => absurd empty given⟩
        · rw [if_pos (by simpa using given)]
          rfl
        · rw [round.gives, ← behind]
          rfl

theorem exists_read (some_ : 0 < wanted) (stands : file.At data) :
    ∃ piece after, file.read wanted = .ok (piece, after) ∧ Gives file data piece after ∧
      piece.length ≤ wanted ∧ (piece = [] → data.drop file.position = []) := by
  rw [read, if_neg (by omega)]
  refine exists_readRounds some_ stands ?_
  have := stands.rest
  have : emptyRounds file.rest file.member ≤ 2 * file.rest.length + 1 := by
    rw [emptyRounds.eq_def]
    split
    · omega
    · split <;> omega
  omega

theorem exists_skip {fuel count : Nat} (stands : file.At data) (enough : count ≤ fuel) :
    ∃ after, skip fuel count file = .ok after ∧ after.At data ∧ after.whole = file.whole ∧
      after.position = min (file.position + count) data.length := by
  have inside := stands.position
  induction fuel generalizing file count with
  | zero => exact ⟨file, rfl, stands, rfl, by omega⟩
  | succ fuel ih =>
    rw [skip]
    by_cases none_ : count = 0
    · exact ⟨file, by rw [if_pos none_], stands, rfl, by omega⟩
    · rw [if_neg none_]
      have some_ : 0 < min windowSize count := by
        have : 0 < windowSize := by decide
        omega
      obtain ⟨piece, after, ran, gives, fits, empty⟩ := exists_read some_ stands
      rw [ran]
      have moved := gives.position
      cases piece with
      | nil =>
        have atEnd := List.drop_eq_nil_iff.mp (empty rfl)
        refine ⟨after, rfl, gives.stands, gives.same, ?_⟩
        rw [List.length_nil] at moved
        omega
      | cons byte bytes =>
        have positive : 0 < (byte :: bytes).length := Nat.succ_pos _
        obtain ⟨last, skipped, stands_, same, position⟩ :=
          ih gives.stands (show count - (byte :: bytes).length ≤ fuel by omega)
            gives.stands.position
        exact ⟨last, skipped, stands_, same.trans gives.same, by omega⟩

/-- A seek leads to its target, or to one of the ends. -/
theorem exists_seek (stands : file.At data) (target : Int) :
    ∃ after, file.seek target = .ok after ∧ after.At data ∧ after.whole = file.whole ∧
      after.position = min target.toNat data.length := by
  have inside := stands.position
  rw [seek]
  split
  · next backward =>
    obtain ⟨after, ran, stands_, same, position⟩ :=
      exists_skip (at_ofBytes stands.whole) (Nat.le_refl (target - 0).toNat)
    refine ⟨after, ran, stands_, same, ?_⟩
    simpa [ofBytes] using position
  · next forward =>
    obtain ⟨after, ran, stands_, same, position⟩ :=
      exists_skip stands (Nat.le_refl (target - file.position).toNat)
    exact ⟨after, ran, stands_, same, by omega⟩

end GzipFile

end RegistryMend.Archive
