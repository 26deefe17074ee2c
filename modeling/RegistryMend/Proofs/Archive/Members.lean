import Mathlib.Data.List.DropRight
import Mathlib.Data.List.TakeDrop
import RegistryMend.Archive.Tar
import RegistryMend.Proofs.Archive.Ustar
import RegistryMend.Proofs.Archive.Windows

/-! # Walking over files and directories

An archive of files and directories is walked header by header, and the data of each is passed in
whole blocks. The first member that is wanted is found wherever it stands, and its data is read as
it is. What comes behind it does not matter.
-/

namespace RegistryMend.Archive

/-- A file or a directory as it stands in an archive. -/
structure TarMember where
  name : List UInt8
  kind : Kind
  header : List UInt8
  content : List UInt8
  padding : List UInt8
  ustar : Ustar header name content.length kind
  short : padding.length < blockSize
  whole : blockSize ∣ content.length + padding.length

/-- The bytes that a member takes in the archive. -/
def TarMember.bytes (member : TarMember) : List UInt8 :=
  member.header ++ (member.content ++ member.padding)

/-- The data of members one after the other. -/
def memberBytes (members : List TarMember) : List UInt8 :=
  members.flatMap TarMember.bytes

theorem memberBytes_cons (member : TarMember) (members : List TarMember) :
    memberBytes (member :: members) = member.bytes ++ memberBytes members :=
  List.flatMap_cons

theorem inBlocks_eq {size padding : Nat} (short : padding < blockSize)
    (whole : blockSize ∣ size + padding) : inBlocks size = (size + padding : Nat) := by
  rw [inBlocks, Int.fdiv_eq_ediv_of_nonneg _ (by decide)]
  simp only [blockSize] at *
  omega

theorem inBlocks_nonneg (size : Nat) : 0 ≤ inBlocks size := by
  rw [inBlocks, Int.fdiv_eq_ediv_of_nonneg _ (by decide)]
  simp only [blockSize]
  omega

theorem TarMember.length_bytes (member : TarMember) :
    (member.bytes.length : Int) = blockSize + inBlocks member.content.length := by
  rw [inBlocks_eq member.short member.whole, bytes, List.length_append, List.length_append,
    member.ustar.length, Int.natCast_add]

namespace Walk

variable {α β : Type}

theorem bind_apply (walk : Walk α) (next : α → Walk β) (archive : Tar) :
    (walk >>= next) archive =
      match walk archive with
      | .ok (value, after) => next value after
      | .error fault => .error fault := by
  cases run : walk archive <;> simp [bind, StateT.bind, Except.bind, run]

/-- Walks one after the other fail in the first or in the second. -/
theorem bind_eq_error_iff {walk : Walk α} {next : α → Walk β} {archive : Tar}
    {fault : ArchiveFault} :
    (walk >>= next) archive = .error fault ↔
      walk archive = .error fault ∨
        ∃ value after, walk archive = .ok (value, after) ∧ next value after = .error fault := by
  rw [bind_apply]
  cases walk archive with
  | error fault => simp
  | ok result => cases result; simp

end Walk

namespace Tar

/-! ## Single steps -/

/-- An archive that stands at a position in data, with the next header at a place. No facts are
known about members that follow. -/
structure At (archive : Tar) (data : List UInt8) (position next : Nat) : Prop where
  window : archive.window.At data position
  next : archive.next = next
  facts : archive.facts = []

variable {archive : Tar} {data : List UInt8} {position next : Nat}

theorem at_ofBytes {bytes : List UInt8} (gzipped : Gzipped bytes data) :
    (ofBytes bytes).At data 0 0 :=
  ⟨Window.at_ofBytes gzipped, rfl, rfl⟩

theorem At.tell (stands : archive.At data position next) :
    Walk.tell archive = .ok ((position : Int), archive) := by
  rw [Walk.tell, Walk.ofReader]
  rw [stands.window.tell]

theorem At.read (stands : archive.At data position next) {count : Nat}
    (few : (count : Int) < Walk.memoryBound) :
    ∃ after, Walk.read count archive = .ok ((data.drop position).take count, after) ∧
      after.At data (min (position + count) data.length) next := by
  obtain ⟨window, ran, stands_, -⟩ := stands.window.read count
  refine ⟨⟨window, archive.next, archive.facts⟩, ?_, stands_, stands.next, stands.facts⟩
  have bound : Walk.memoryBound < Walk.placeBound := by decide
  rw [Walk.read, if_neg (by omega), if_neg (by omega), if_neg (by omega), Walk.ofReader]
  rw [Int.toNat_natCast, ran]

theorem At.seek (stands : archive.At data position next) {place : Nat}
    (near : (place : Int) < Walk.placeBound) :
    ∃ after, Walk.seek place archive = .ok ((), after) ∧
      after.At data (min place data.length) next := by
  obtain ⟨window, ran, stands_, -⟩ := stands.window.seek place
  refine ⟨⟨window, archive.next, archive.facts⟩, ?_, stands_, stands.next, stands.facts⟩
  have inside : (decide ((place : Int) < -Walk.placeBound) ||
      decide (Walk.placeBound ≤ (place : Int))) = false := by
    have : 0 < Walk.placeBound := by decide
    simp only [Bool.or_eq_false_iff, decide_eq_false_iff_not]
    omega
  rw [Walk.seek, inside, if_neg Bool.false_ne_true, Walk.ofReader]
  rw [ran]

/-- The next header is gone to if something stands before it. -/
theorem At.goToNext (stands : archive.At data position next)
    (reached : next = position ∨ 0 < next ∧ next ≤ data.length)
    (near : (next : Int) ≤ Walk.placeBound) :
    ∃ after, Tar.goToNext archive = .ok (true, after) ∧ after.At data next next := by
  have start : (get : Walk Tar) archive = .ok (archive, archive) := rfl
  rw [Tar.goToNext, Walk.bind_apply, start]
  dsimp only
  rw [Walk.bind_apply, stands.tell, stands.next]
  dsimp only
  by_cases here : next = position
  · rw [if_pos (by rw [here])]
    exact ⟨archive, rfl, here ▸ stands⟩
  · obtain ⟨some_, inside⟩ := reached.resolve_left here
    have before : ((next : Int) - 1) = (next - 1 : Nat) := by omega
    obtain ⟨middle, sought, stands_⟩ :=
      stands.seek (show ((next - 1 : Nat) : Int) < Walk.placeBound by omega)
    rw [Nat.min_eq_left (by omega)] at stands_
    obtain ⟨after, ran, stands__⟩ :=
      stands_.read (show ((1 : Nat) : Int) < Walk.memoryBound by decide)
    rw [show min (next - 1 + 1) data.length = next by omega] at stands__
    have present : ((data.drop (next - 1)).take 1).isEmpty = false := by
      rw [List.isEmpty_eq_false_iff, ne_eq, List.take_eq_nil_iff, List.drop_eq_nil_iff]
      omega
    have ran_ : Walk.read 1 middle = .ok ((data.drop (next - 1)).take 1, after) := ran
    rw [if_neg (by omega), if_neg (by omega), before, Walk.bind_apply, sought]
    dsimp only
    rw [Walk.bind_apply, ran_]
    dsimp only
    rw [present]
    exact ⟨after, rfl, stands__⟩

/-! ## Headers -/

/-- The entry of a member whose data starts at a place. -/
def entryAt (place : Nat) (kind : Kind) (name : List UInt8) (size : Nat) : Entry :=
  { name := knownName kind name, size := size, kind := kind, data := place }

/-- A known name has lost its slashes already. -/
theorem stripped_entryAt (place : Nat) (kind : Kind) (name : List UInt8) (size : Nat) :
    (if (entryAt place kind name size).kind = .directory then
      { entryAt place kind name size with
        name := withoutLastSlashes (entryAt place kind name size).name }
      else entryAt place kind name size) = entryAt place kind name size := by
  split
  · next isDirectory =>
    have isDirectory_ : kind = .directory := isDirectory
    subst isDirectory_
    have same : withoutLastSlashes (withoutLastSlashes name) = withoutLastSlashes name := by
      rw [withoutLastSlashes, withoutLastSlashes, List.reverse_reverse, List.dropWhile_idempotent]
    exact congrArg (fun name => { entryAt place .directory name size with name := name }) same
  · rfl

theorem At.plainEntry {name : List UInt8} {size : Nat} {kind : Kind}
    (stands : archive.At data position next) (plain : dataSpace kind size = inBlocks size) :
    Archive.plainEntry { name := knownName kind name, size := size, kind := kind } archive =
      .ok (entryAt position kind name size, { archive with next := position + inBlocks size }) := by
  have facts := stands.facts
  obtain ⟨window, next_, records⟩ := archive
  subst facts
  rw [Archive.plainEntry, Walk.bind_apply, stands.tell]
  dsimp only
  rw [plain]
  exact congrArg (fun entry => Except.ok (entry, _)) (stripped_entryAt position kind name size)

/-- The next member is known by what its header says, and the next header comes behind its data. -/
theorem At.nextEntry {name : List UInt8} {size : Nat} {kind : Kind}
    (stands : archive.At data position next) (bound : Nat)
    (ustar : Ustar ((data.drop next).take blockSize) name size kind)
    (reached : next = position ∨ 0 < next) (near : (next : Int) ≤ Walk.placeBound) :
    ∃ after, Tar.nextEntry bound archive =
        .ok (some (entryAt (next + blockSize) kind name size), after) ∧
      after.At data (next + blockSize) (next + blockSize + (inBlocks size).toNat) := by
  have length := ustar.length
  rw [List.length_take, List.length_drop] at length
  have inside : next + blockSize ≤ data.length := by
    have : 0 < blockSize := by decide
    omega
  obtain ⟨ready, gone, stands_⟩ := stands.goToNext (by omega) near
  obtain ⟨after, ran, stands__⟩ :=
    stands_.read (show (blockSize : Int) < Walk.memoryBound by decide)
  rw [Nat.min_eq_left inside] at stands__
  obtain ⟨byte, -, marks⟩ := ustar.mark
  obtain ⟨others, some_⟩ : ∃ others, mostHeaders = others + 1 := ⟨mostHeaders - 1, rfl⟩
  have entry : readEntry bound mostHeaders ready =
      .ok (.ok (entryAt (next + blockSize) kind name size),
        { after with next := (next + blockSize : Nat) + inBlocks size }) := by
    rw [some_, readEntry, Walk.bind_apply, ran]
    dsimp only
    rw [ustar.ofBlock]
    rcases marks.cases_kind with rfl | ⟨rfl, rfl⟩
    · dsimp only
      rw [Walk.bind_apply, stands__.plainEntry rfl]
      rfl
    · dsimp only
      rw [Walk.bind_apply, stands__.plainEntry rfl]
      rfl
  rw [Tar.nextEntry, Walk.bind_apply, gone]
  dsimp only
  rw [if_pos rfl, Walk.bind_apply, entryAtHeader, entry]
  refine ⟨_, rfl, stands__.window, ?_, stands__.facts⟩
  have := inBlocks_nonneg size
  dsimp only
  omega

/-! ## Walks -/

/-- The first member that is wanted is found behind all that are not. -/
theorem At.find {wanted : Entry → Bool} {members : List TarMember} {rest name : List UInt8}
    {size fuel : Nat} {kind : Kind} (stands : archive.At data position next) (bound : Nat)
    (holds : data.drop next = memberBytes members ++ rest)
    (others : ∀ member ∈ members, ∀ place,
      wanted (entryAt place member.kind member.name member.content.length) = false)
    (ustar : Ustar (rest.take blockSize) name size kind)
    (isWanted : ∀ place, wanted (entryAt place kind name size) = true)
    (enough : members.length < fuel) (reached : next = position ∨ 0 < next)
    (near : ((next + (memberBytes members).length : Nat) : Int) ≤ Walk.placeBound) :
    ∃ after later, Tar.find wanted bound fuel archive =
        .ok (some (entryAt (next + (memberBytes members).length + blockSize) kind name size),
          after) ∧
      after.At data (next + (memberBytes members).length + blockSize) later := by
  induction members generalizing archive position next fuel with
  | nil =>
    obtain ⟨fuel, rfl⟩ := Nat.exists_eq_add_one.mpr enough
    rw [memberBytes, List.flatMap_nil, List.nil_append] at holds
    rw [← holds] at ustar
    obtain ⟨after, ran, stands_⟩ := stands.nextEntry bound ustar reached
      (by omega)
    rw [Tar.find, Walk.bind_apply, ran]
    dsimp only
    rw [isWanted]
    exact ⟨after, _, rfl, stands_⟩
  | cons member members ih =>
    obtain ⟨fuel, rfl⟩ := Nat.exists_eq_add_one.mpr (Nat.zero_lt_of_lt enough)
    have positive : 0 < blockSize := by decide
    have whole := inBlocks_nonneg member.content.length
    have size := member.length_bytes
    have length : (memberBytes (member :: members)).length =
        member.bytes.length + (memberBytes members).length := by
      rw [memberBytes_cons, List.length_append]
    rw [memberBytes_cons, List.append_assoc] at holds
    have header : (data.drop next).take blockSize = member.header := by
      rw [holds, TarMember.bytes, List.append_assoc, List.take_left' member.ustar.length]
    have holds_ : data.drop (next + member.bytes.length) = memberBytes members ++ rest := by
      rw [← List.drop_drop, holds, List.drop_left]
    obtain ⟨middle, ran, stands_⟩ := stands.nextEntry bound (header ▸ member.ustar)
      reached (by omega)
    rw [show next + blockSize + (inBlocks member.content.length).toNat =
      next + member.bytes.length by omega] at stands_
    obtain ⟨after, later, found, stands__⟩ := ih stands_ holds_
      (fun member mem => others member (List.mem_cons_of_mem _ mem))
      (show members.length < fuel by rw [List.length_cons] at enough; omega) (.inr (by omega))
      (by omega)
    rw [Tar.find, Walk.bind_apply, ran]
    dsimp only
    rw [others member List.mem_cons_self, if_neg Bool.false_ne_true, length, ← Nat.add_assoc]
    exact ⟨after, later, found, stands__⟩

theorem partsOf_entryAt (place : Nat) (kind : Kind) (name : List UInt8) (size : Nat) :
    partsOf (entryAt place kind name size) = [⟨0, size, some place⟩] := by
  simp [partsOf, entryAt, partsFrom]

/-- The data of a member is read as it is. -/
theorem At.readData {content behind : List UInt8} {place : Nat}
    (stands : archive.At data position next) (kind : Kind) (name : List UInt8)
    (holds : data.drop place = content ++ behind)
    (near : (place : Int) < Walk.placeBound) (few : (content.length : Int) < Walk.memoryBound) :
    ∃ after, Tar.readData (entryAt place kind name content.length) archive =
      .ok (content, after) := by
  rw [Tar.readData, partsOf_entryAt, List.length_singleton, readParts, entryAt]
  dsimp only
  by_cases none_ : content = []
  · subst none_
    exact ⟨archive, rfl⟩
  · have some_ : 0 < content.length := List.length_pos_iff.mpr none_
    have holdsStart : (Part.mk 0 content.length (some place)).holds 0 = true := by
      simpa [Part.holds] using some_
    have span : [Part.mk 0 content.length (some place)].span (fun part => !part.holds 0) =
        ([], [⟨0, content.length, some place⟩]) := by
      simp [List.span_eq_takeWhile_dropWhile, holdsStart]
    rw [if_neg (by omega), span]
    dsimp only
    rw [Int.sub_zero, Int.sub_zero, Int.min_self, Int.add_zero]
    obtain ⟨middle, sought, stands_⟩ := stands.seek near
    have inside : place ≤ data.length := by
      have sizes := congrArg List.length holds
      rw [List.length_drop, List.length_append] at sizes
      omega
    rw [Nat.min_eq_left inside] at stands_
    obtain ⟨after, ran, -⟩ := stands_.read few
    rw [holds, List.take_left] at ran
    rw [Walk.bind_apply, sought]
    dsimp only
    rw [Walk.bind_apply, ran]
    dsimp only
    rw [if_pos rfl, pure_bind, Int.sub_self, readParts, if_pos (Int.le_refl 0), pure_bind,
      List.append_nil]
    exact ⟨after, rfl⟩

end Tar

end RegistryMend.Archive
