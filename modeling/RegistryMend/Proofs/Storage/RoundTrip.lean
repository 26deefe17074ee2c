import RegistryMend.Proofs.Json.Reordering
import RegistryMend.Proofs.Sequencing
import RegistryMend.Proofs.Storage.Documents
import RegistryMend.Proofs.Storage.Tables

/-! # Documents written and read back

What was written to a row is read from it with the revision of the row, within the transaction and
after it. Keys may come back in another order, and documents that differ in that alone leave the
same text.
-/

namespace RegistryMend.Storage

open RegistryMend.Json (Members Reordered Value)
open RegistryMend.Package (Id Root)
open RegistryMend.Sql (Literal)

namespace Database

/-! ## When a write succeeds -/

/-- A database that takes a document for a package: the table can be used, rows are found by their
keys, the repository exists and is not write-protected, and there is a next revision. -/
structure Accepts (db : Database) (key : RootKey) : Prop where
  usable : db.holds .packageRoots = true
  keyed : db.requireRootKey = .ok ()
  known : db.repositories.holds key.1 = true
  writable : key.1 ∉ db.writeProtected
  revisable : ∀ row ∈ db.roots.find? key, row.isRevisable = true

instance (db : Database) (key : RootKey) : Decidable (db.Accepts key) :=
  decidable_of_iff (db.holds .packageRoots = true ∧ db.requireRootKey = .ok () ∧
      db.repositories.holds key.1 = true ∧ key.1 ∉ db.writeProtected ∧
      ∀ row ∈ db.roots.find? key, row.isRevisable = true)
    ⟨fun ⟨usable, keyed, known, writable, revisable⟩ =>
      ⟨usable, keyed, known, writable, revisable⟩,
    fun accepts => ⟨accepts.usable, accepts.keyed, accepts.known, accepts.writable,
      accepts.revisable⟩⟩

theorem Accepts.writeRoot {db : Database} {key : RootKey} (accepts : db.Accepts key)
    {row : RootRow} (own : row.key = key) (fits : row.revision.fits = true) :
    db.writeRoot row = .ok (db.withRoots (db.roots.put row)) := by
  subst own
  have required : db.require .packageRoots = .ok () := if_pos accepts.usable
  have writable : row.repository ∉ db.writeProtected := accepts.writable
  have known : db.repositories.holds row.repository = true := accepts.known
  rw [Database.writeRoot, required, accepts.keyed]
  simp only [bind, Except.bind, Except.mapError, fits, Bool.not_true, Bool.false_eq_true, if_false,
    if_neg writable, known, Bool.or_true, if_true]
  rfl

/-- Where a document is taken, there is a next revision. -/
theorem Accepts.revisionOf {db : Database} {key : RootKey} (accepts : db.Accepts key) :
    Database.revisionOf (db.roots.find? key) = .ok (db.revision? key) ∧
      (Literal.integer (db.revision key + 1)).fits = true := by
  rw [revision, revision?]
  cases found : db.roots.find? key with
  | none => exact ⟨rfl, by decide⟩
  | some row =>
    obtain ⟨revision, number, fits⟩ := row.isRevisable_iff.mp (accepts.revisable row found)
    dsimp only [Database.revisionOf, Option.bind_some]
    rw [RootRow.revision?_eq_some_iff.mp number, number]
    exact ⟨rfl, fits⟩

/-- A write meets its guard and leaves the document, or finds another revision. -/
theorem Accepts.putRoot {db : Database} {key : RootKey} (accepts : db.Accepts key)
    (expected : Option String) (root : Root) :
    db.putRoot key expected root =
      if guardAccepts expected (db.revision? key) then .ok (db.written key root)
      else .error (.conflict key.2 (expected.getD "")
        ((db.revision? key).map Decimal.integerText)) := by
  obtain ⟨number, fits⟩ := accepts.revisionOf
  have own : (nextRow key (db.revision? key) root).key = key := rfl
  rw [Database.putRoot, rootRow?_of_holds accepts.usable]
  simp only [number]
  rw [accepts.writeRoot own fits]
  rfl

/-- What a write that succeeds has found: its guard is met, the revision so far is a number, and the
next one fits. -/
structure Passes (db : Database) (key : RootKey) (expected : Option String) : Prop where
  usable : db.holds .packageRoots = true
  met : guardAccepts expected (db.revision? key) = true
  numbered : Database.revisionOf (db.roots.find? key) = .ok (db.revision? key)
  fits : (Literal.integer (db.revision key + 1)).fits = true

theorem revisionOf_eq_ok {row? : Option RootRow} {revision : Option Int}
    (numbered : Database.revisionOf row? = .ok revision) : row?.bind RootRow.revision? = revision := by
  cases row? with
  | none => exact Except.ok.inj numbered
  | some row =>
    rw [Database.revisionOf] at numbered
    rw [Option.bind_some]
    split at numbered
    · cases numbered
    · next number =>
      rw [RootRow.revision?_eq_some_iff.mpr number]
      exact Except.ok.inj numbered

theorem fits_of_writeRoot {db after : Database} {row : RootRow}
    (written : db.writeRoot row = .ok after) : row.revision.fits = true := by
  rw [Database.writeRoot] at written
  obtain ⟨_, -, written⟩ := bind_eq_ok_iff.mp written
  obtain ⟨_, -, written⟩ := bind_eq_ok_iff.mp written
  split at written
  · cases written
  · next fits => simpa using fits

/-- A write that succeeds has left the document. -/
theorem putRoot_eq_ok {db after : Database} {key : RootKey} {expected : Option String} {root : Root}
    (put : db.putRoot key expected root = .ok after) :
    db.Passes key expected ∧ after = db.written key root := by
  cases usable : db.holds .packageRoots with
  | false =>
    rw [Database.putRoot, rootRow?_of_not_holds usable] at put
    cases put
  | true =>
    rw [Database.putRoot, rootRow?_of_holds usable] at put
    dsimp only at put
    split at put
    · cases put
    · next revision numbered =>
      have number : db.revision? key = revision := revisionOf_eq_ok numbered
      subst number
      split at put
      · next met =>
        refine ⟨⟨usable, met, numbered, fits_of_writeRoot put⟩, ?_⟩
        rcases db.writeRoot_cases (nextRow key (db.revision? key) root) with
          ⟨failure, failed⟩ | written
        · rw [failed] at put
          cases put
        · rw [written] at put
          exact (Except.ok.inj put).symm
      · cases put

/-- A document that is read shows the revision of its row. -/
theorem revision_of_getRoot {db : Database} {key : RootKey} {root : Root}
    (read : db.getRoot key = .ok (some root)) :
    ∃ row, db.roots.find? key = some row ∧
      Members.find? Root.revisionKey root = some (.str row.revisionShown) := by
  cases usable : db.holds .packageRoots with
  | false =>
    rw [getRoot, rootRow?_of_not_holds usable] at read
    cases read
  | true =>
    rw [getRoot, rootRow?_of_holds usable] at read
    cases found : db.roots.find? key with
    | none =>
      rw [found] at read
      cases read
    | some row =>
      rw [found] at read
      refine ⟨row, rfl, ?_⟩
      dsimp only [RootRow.root] at read
      cases text : readRoot row.packageId row.document with
      | error failure =>
        rw [text] at read
        cases read
      | ok document =>
        rw [text] at read
        cases read
        exact find?_withRevision ..

/-! ## What a write leaves -/

/-- A write leaves all other rows as they are. -/
theorem select_written (db : Database) (key : RootKey) (root : Root) :
    (db.written key root).roots.select (· ≠ key) = db.roots.select (· ≠ key) :=
  db.roots.select_put_of_not (decide_eq_false (not_not_intro rfl))

/-- What is read after a write is the document with the next revision. -/
theorem getRoot_written {db : Database} {key : RootKey} {root : Root}
    (usable : db.holds .packageRoots = true) (storable : Members.Storable root) :
    (db.written key root).getRoot key = .ok (some (Members.sorted
      (withRevision (Decimal.integerText (db.revision key + 1)) root))) := by
  let text := Decimal.integerText (db.revision key + 1)
  have next : (nextRow key (db.revision? key) root).revisionShown = text := rfl
  have usable_ : (db.written key root).holds .packageRoots = true := usable
  have storable_ := storable_withRevision storable text
  have kept : withRevision text (Members.sorted (withRevision text root)) =
      Members.sorted (withRevision text root) := by
    refine Assoc.insert_of_lookup ?_
    rw [← Members.find?, Members.find?_sorted (Members.storable_iff.mp storable_).1,
      find?_withRevision]
    rfl
  rw [getRoot, rootRow?_of_holds usable_, find?_written_self]
  dsimp only
  rw [RootRow.root, next]
  change Except.map some ((readRoot key.2 (Value.obj (withRevision text root)).canonical).map _) = _
  rw [readRoot_canonical storable_, Except.map, kept]
  rfl

end Database

theorem Matches.withRevision {root other : Root} (same : Members.Matches root other)
    (revision : String) :
    Members.Matches (withRevision revision root) (withRevision revision other) :=
  same.insert (.refl (Package.storable_str _)) Root.revisionKey

/-- Documents that differ in the order of keys alone leave the same row. -/
theorem nextRow_matches {root other : Root} (same : Members.Matches root other) (key : RootKey)
    (revision : Option Int) : nextRow key revision root = nextRow key revision other := by
  rw [nextRow, nextRow, (Matches.withRevision same _).canonical]

/-! ## The round trip -/

/-- What the write of a document to the root of a package leaves in a unit of work. -/
structure Leaves (repository : String) (id : Id) (expected : Option String) (root : Root)
    (unit after : UnitOfWork) (key : RootKey) : Prop where
  own : key.1 = repository
  /-- The id of the package can be encoded. -/
  named : id.text = ↑key.2
  /-- The row has the next revision. Within the transaction and after it, the document is read back
  with that revision, up to the order of keys; the saved text has it as well. -/
  reads : ∃ row revision document saved, after.current.roots.find? key = some row ∧
    revision = unit.current.revision key + 1 ∧ row.revision = .integer revision ∧
      databaseRoots.get repository id after = .ok (some document) ∧
      databaseRoots.get repository id (.begin after.commit.committed) = .ok (some document) ∧
      Reordered (.obj (withRevision (Decimal.integerText revision) root)) (.obj document) ∧
      Value.read row.document = .ok (.obj saved) ∧
      Members.find? Root.revisionKey saved = some (.str (Decimal.integerText revision))
  /-- Any other order of the keys leaves the same. -/
  unordered : ∀ other, Reordered (.obj root) (.obj other) →
    databaseRoots.put repository id expected other unit = .ok after
  /-- All other rows are as before. -/
  others : after.current.roots.select (· ≠ key) = unit.current.roots.select (· ≠ key)
  frame : ∃ roots, after.current = unit.current.withRoots roots

section Units

variable {unit after : UnitOfWork} {repository : String} {id : Id}

/-- A unit of work reads from the database that it sees. -/
theorem get_eq_of_named {packageId : String} (named : id.text = ↑packageId) (unit : UnitOfWork) :
    databaseRoots.get repository id unit = unit.current.getRoot (repository, packageId) := by
  change unit.current.keyFor repository id >>= _ = _
  rw [Database.keyFor_of_named named]
  rfl

/-- A write to a unit of work writes to the database that it sees. -/
theorem put_eq_ok {expected : Option String} {root : Root} :
    databaseRoots.put repository id expected root unit = .ok after ↔
      ∃ packageId : String, id.text = ↑packageId ∧ ∃ db,
        unit.current.putRoot (repository, packageId) expected root = .ok db ∧
          after = unit.write db := by
  change (unit.current.keyFor repository id >>= fun key => unit.current.putRoot key expected root >>=
    fun db => Except.ok (unit.write db)) = .ok after ↔ _
  simp only [bind_eq_ok_iff, Database.keyFor_eq_ok_iff]
  constructor
  · rintro ⟨⟨_, packageId⟩, ⟨rfl, named⟩, db, put, same⟩
    exact ⟨packageId, named, db, put, (Except.ok.inj same).symm⟩
  · rintro ⟨packageId, named, db, put, rfl⟩
    exact ⟨(repository, packageId), ⟨rfl, named⟩, db, put, rfl⟩

/-- What was written is read back as it was, with its new revision, and nothing else has changed. -/
theorem leaves_of_put {expected : Option String} {root : Root} (storable : Members.Storable root)
    (put : databaseRoots.put repository id expected root unit = .ok after) :
    ∃ packageId, Leaves repository id expected root unit after (repository, packageId) := by
  obtain ⟨packageId, named, db, put_, rfl⟩ := put_eq_ok.mp put
  obtain ⟨passes, rfl⟩ := Database.putRoot_eq_ok put_
  let key : RootKey := (repository, packageId)
  let text := Decimal.integerText (unit.current.revision key + 1)
  let document := Members.sorted (withRevision text root)
  have revised := storable_withRevision storable text
  have read : (unit.current.written key root).getRoot key = .ok (some document) :=
    Database.getRoot_written passes.usable storable
  refine ⟨packageId, rfl, named, ⟨nextRow key (unit.current.revision? key) root, _, document,
    document, ?row, rfl, rfl, ?within, ?committed, ?same, ?text, ?revision⟩, ?_, ?_, ?_⟩
  case row =>
    rw [UnitOfWork.current_write]
    exact Database.find?_written_self _ _ _
  case within =>
    rw [get_eq_of_named named, UnitOfWork.current_write]
    exact read
  case committed =>
    rw [get_eq_of_named named, UnitOfWork.current_begin, UnitOfWork.committed_commit,
      UnitOfWork.current_write]
    exact read
  case same => exact Json.reordered_sorted (.obj _)
  case text => exact Json.read_canonical revised
  case revision =>
    rw [Members.find?_sorted (Members.storable_iff.mp revised).1, find?_withRevision]
    rfl
  · intro other same
    refine put_eq_ok.mpr ⟨packageId, named, _, ?_, rfl⟩
    have matching : Members.Matches root other := .of_reordered storable same
    rw [← put_, Database.putRoot, Database.putRoot]
    simp only [nextRow_matches matching]
  · rw [UnitOfWork.current_write]
    exact Database.select_written _ _ _
  · exact ⟨_, UnitOfWork.current_write _ _⟩

end Units

/-- A write without a guard succeeds if the database accepts it, and only for an id that can be
encoded. The document that was written is read back as it was, with its new revision, and nothing else
has changed. -/
theorem put_reads_back (unit : UnitOfWork) (repository : String) (id : Id) {root : Root}
    (storable : Members.Storable root) :
    (∀ packageId : String, id.text = ↑packageId →
      unit.current.Accepts (repository, packageId) →
        ∃ after, databaseRoots.put repository id none root unit = .ok after) ∧
    ∀ after, databaseRoots.put repository id none root unit = .ok after →
      ∃ packageId, Leaves repository id none root unit after (repository, packageId) := by
  constructor
  · intro packageId named accepts
    refine ⟨unit.write (unit.current.written (repository, packageId) root), ?_⟩
    refine put_eq_ok.mpr ⟨packageId, named, _, ?_, rfl⟩
    rw [accepts.putRoot, guardAccepts_none, if_pos rfl]
  · intro after put
    exact leaves_of_put storable put

/-- A database with a repository and a row whose text says something else about its revision. -/
def seededDatabase : Database :=
  { Database.fresh with
    repositories := .put .empty ⟨"r", "npm", "hosted"⟩
    roots := ⟨[⟨"r", "a", .integer 4, "\x7b\"_rev\":\"9\"\x7d"⟩], by decide⟩ }

/-- A package without a scope. -/
def plainId : Id := ⟨none, "a", rfl, by decide⟩

theorem put_reads_back_seeded :
    let root : Root :=
      [("name", .str "a"), ("dist-tags", .obj [("next", .bool true), ("latest", .null)])]
    Members.Storable root ∧ seededDatabase.Accepts ("r", "a") ∧
      ∃ after, databaseRoots.put "r" plainId none root (.begin seededDatabase) = .ok after ∧
        Leaves "r" plainId none root (.begin seededDatabase) after ("r", "a") := by
  intro root
  have storable : Members.Storable root := by
    simp [root, Members.storable_iff, Value.Storable, Json.MembersStorable, Assoc.keys]
  have accepts : seededDatabase.Accepts ("r", "a") := by decide +kernel
  obtain ⟨succeeds, leaves⟩ := put_reads_back (.begin seededDatabase) "r" plainId storable
  obtain ⟨after, put⟩ := succeeds "a" rfl accepts
  obtain ⟨packageId, left⟩ := leaves after put
  obtain rfl : "a" = packageId := WideText.ofString_injective left.named
  exact ⟨storable, accepts, after, put, left⟩

end RegistryMend.Storage
