import RegistryMend.Proofs.Package.Merge
import RegistryMend.Proofs.Storage.Tables
import RegistryMend.Storage.RootStore

/-! # Documents in the database

The document of a package is what the text in its row reads as. A write leaves the document that
was written, with sorted keys and its new revision, and touches nothing else in the database.
-/

namespace RegistryMend.Storage

open RegistryMend.Json (Members Value)
open RegistryMend.Package (Root)
open RegistryMend.Sql (Literal)

/-! ## Texts of documents -/

theorem storable_readRoot {packageId text : String} {root : Root}
    (read : readRoot packageId text = .ok root) : Members.Storable root := by
  rw [readRoot] at read
  split at read
  · cases read
  · next members found =>
    cases read
    exact Json.storable_read found
  · cases read

/-- A document that can be stored is read back with sorted keys. -/
theorem readRoot_canonical {root : Root} (storable : Members.Storable root) (packageId : String) :
    readRoot packageId (Value.obj root).canonical = .ok root.sorted := by
  rw [readRoot, Json.read_canonical storable]
  rfl

theorem storable_withRevision {root : Root} (storable : Members.Storable root) (revision : String) :
    Members.Storable (withRevision revision root) :=
  storable.insert (Package.storable_str _) _

/-- The revision says nothing about tarballs. -/
theorem dist_withRevision (revision : String) (root : Root) (version : WideText) :
    Root.dist version (withRevision revision root) = Root.dist version root := by
  refine Package.dist_congr ?_ version
  rw [Members.child, Members.child, withRevision, Members.find?, Members.insert,
    Assoc.lookup_insert_of_ne (by decide)]

theorem distText?_withRevision (revision : String) (root : Root) (version key : WideText) :
    Root.distText? version key (withRevision revision root) = Root.distText? version key root := by
  rw [Root.distText?, Root.distText?, dist_withRevision]

/-- The document in a row, if its text can be read. -/
def RootRow.document? (row : RootRow) : Option Root :=
  (readRoot row.packageId row.document).toOption

/-- The revision in a row, if it is a number. -/
def RootRow.revision? (row : RootRow) : Option Int :=
  (countOf row.revision).toOption

theorem RootRow.revision?_eq_some_iff {row : RootRow} {revision : Int} :
    row.revision? = some revision ↔ countOf row.revision = .ok revision := by
  rw [RootRow.revision?]
  cases countOf row.revision <;> simp [Except.toOption]

/-- The revision in a row, zero if it is no number. -/
def RootRow.count (row : RootRow) : Int :=
  row.revision?.getD 0

/-- Whether a row can be followed by another one: its revision is a number, and the next one fits
into the column. -/
def RootRow.isRevisable (row : RootRow) : Bool :=
  row.revision?.any fun revision => (Literal.integer (revision + 1)).fits

theorem RootRow.isRevisable_iff {row : RootRow} : row.isRevisable = true ↔
    ∃ revision, row.revision? = some revision ∧ (Literal.integer (revision + 1)).fits = true :=
  Option.any_eq_true ..

theorem document?_nextRow {root : Root} (storable : Members.Storable root) (key : RootKey)
    (revision : Option Int) : (nextRow key revision root).document? =
      some (Members.sorted
        (withRevision (Decimal.integerText (revision.getD 0 + 1)) root)) := by
  rw [RootRow.document?, nextRow]
  dsimp only
  rw [readRoot_canonical (storable_withRevision storable _)]
  rfl

theorem RootRow.storable_document {row : RootRow} {root : Root}
    (found : row.document? = some root) : Members.Storable root := by
  rw [RootRow.document?] at found
  cases text : readRoot row.packageId row.document with
  | error failure =>
    rw [text] at found
    cases found
  | ok document =>
    rw [text] at found
    cases found
    exact storable_readRoot text

namespace Database

/-- The document of a package, if it has a row whose text can be read. -/
def document? (db : Database) (key : RootKey) : Option Root :=
  (db.roots.find? key).bind RootRow.document?

/-- The document of a package has a checksum for a version, if there is a document. -/
def AgreesOn (db : Database) (key : RootKey) (version : WideText) (sha1 : String) : Prop :=
  ∀ root, db.document? key = some root → Root.distText? version Root.shasumKey root = some ↑sha1

/-- The revision in the row of a package, if there is one that is a number. -/
def revision? (db : Database) (key : RootKey) : Option Int :=
  (db.roots.find? key).bind RootRow.revision?

/-- The revision of a package, zero if there is none. -/
def revision (db : Database) (key : RootKey) : Int :=
  (db.revision? key).getD 0

/-- The database with other package roots. -/
def withRoots (db : Database) (roots : Table RootRow RootRow.key) : Database :=
  { db with roots }

theorem revision_eq (db : Database) (key : RootKey) :
    db.revision key = (db.revision? key).getD 0 := rfl

theorem revision?_of_find? {db : Database} {key : RootKey} {row : RootRow}
    (found : db.roots.find? key = some row) : db.revision? key = row.revision? := by
  rw [revision?, found]
  rfl

theorem revision_eq_count (db : Database) (key : RootKey) :
    db.revision key = ((db.roots.find? key).map RootRow.count).getD 0 := by
  rw [revision, revision?]
  cases db.roots.find? key <;> rfl

theorem storable_document {db : Database} {key : RootKey} {root : Root}
    (found : db.document? key = some root) : Members.Storable root := by
  obtain ⟨row, -, read⟩ := Option.bind_eq_some_iff.mp found
  exact row.storable_document read

/-! ## Reading -/

theorem rootRow?_of_holds {db : Database} (usable : db.holds .packageRoots = true)
    (key : RootKey) : db.rootRow? key = .ok (db.roots.find? key) := by
  rw [rootRow?, require, if_pos usable]
  rfl

theorem rootRow?_of_not_holds {db : Database} (unusable : db.holds .packageRoots = false)
    (key : RootKey) : db.rootRow? key = .error .statement := by
  rw [rootRow?, require, if_neg (by rw [unusable]; decide)]
  rfl

/-- The key of a package is its id, if that can be encoded. -/
theorem keyFor_eq_ok_iff {db : Database} {repository : String} {id : Package.Id} {key : RootKey} :
    db.keyFor repository id = .ok key ↔ repository = key.1 ∧ id.text = ↑key.2 := by
  rw [← WideText.plain?_eq_some_iff, keyFor]
  cases id.text.plain? with
  | some packageId => simp [Prod.ext_iff]
  | none =>
    cases db.require .packageRoots <;> simp

theorem keyFor_eq_error_iff {db : Database} {repository : String} {id : Package.Id}
    {failure : Failure} : db.keyFor repository id = .error failure ↔ id.text.plain? = none ∧
      failure = if db.holds .packageRoots then .value .notEncodable else .database .statement := by
  rw [keyFor, require]
  cases id.text.plain? with
  | some packageId => simp
  | none => cases db.holds .packageRoots <;> simp [eq_comm]

theorem keyFor_of_named {db : Database} {repository packageId : String} {id : Package.Id}
    (named : id.text = ↑packageId) : db.keyFor repository id = .ok (repository, packageId) :=
  keyFor_eq_ok_iff.mpr ⟨rfl, named⟩

/-- Reading a package root: the table cannot be used, the package has no row, the text of its row
cannot be read, or there is a document. -/
theorem getRoot_cases (db : Database) (key : RootKey) :
    (db.holds .packageRoots = false ∧ db.getRoot key = .error (.database .statement)) ∨
      (db.holds .packageRoots = true ∧ db.document? key = none ∧
        (db.getRoot key = .ok none ∨
          ∃ packageId problem, db.getRoot key = .error (.rootUnreadable packageId problem))) ∨
      ∃ root revision, db.holds .packageRoots = true ∧ db.document? key = some root ∧
        db.getRoot key = .ok (some (withRevision revision root)) := by
  cases usable : db.holds .packageRoots with
  | false => exact .inl ⟨rfl, by rw [getRoot, rootRow?_of_not_holds usable]⟩
  | true =>
    right
    rw [getRoot, rootRow?_of_holds usable, document?]
    cases db.roots.find? key with
    | none => exact .inl ⟨rfl, rfl, .inl rfl⟩
    | some row =>
      cases text : readRoot row.packageId row.document with
      | error failure =>
        have problem : ∃ packageId problem, failure = .rootUnreadable packageId problem := by
          rw [readRoot] at text
          split at text
          · cases text
            exact ⟨_, _, rfl⟩
          · cases text
          · cases text
            exact ⟨_, _, rfl⟩
        obtain ⟨packageId, problem, rfl⟩ := problem
        refine .inl ⟨rfl, ?_, .inr ⟨packageId, problem, ?_⟩⟩
        · simp [RootRow.document?, text, Except.toOption]
        · simp [RootRow.root, text, Except.map]
      | ok root =>
        refine .inr ⟨root, row.revisionShown, rfl, ?_, ?_⟩
        · simp [RootRow.document?, text, Except.toOption]
        · simp [RootRow.root, text, Except.map]

/-! ## Writing -/

/-- Writing a row fails, or puts the row into its table. -/
theorem writeRoot_cases (db : Database) (row : RootRow) :
    (∃ failure, db.writeRoot row = .error failure) ∨
      db.writeRoot row = .ok (db.withRoots (db.roots.put row)) := by
  rw [writeRoot]
  cases db.require .packageRoots with
  | error fault => exact .inl ⟨_, rfl⟩
  | ok _ =>
    cases db.requireRootKey with
    | error fault => exact .inl ⟨_, rfl⟩
    | ok _ =>
      dsimp only [bind, Except.bind, Except.mapError]
      split
      · exact .inl ⟨_, rfl⟩
      split
      · exact .inl ⟨_, rfl⟩
      split
      · exact .inr rfl
      · exact .inl ⟨_, rfl⟩

/-- The database after the document of a package was written: its row is the next one. -/
def written (db : Database) (key : RootKey) (root : Root) : Database :=
  db.withRoots (db.roots.put (nextRow key (db.revision? key) root))

/-- Whether the package roots of a repository may be replaced: rows are found by their keys, and the
repository is not write-protected. -/
def Permits (db : Database) (repository : String) : Prop :=
  db.requireRootKey = .ok () ∧ repository ∉ db.writeProtected

instance (db : Database) (repository : String) : Decidable (db.Permits repository) :=
  inferInstanceAs (Decidable (_ ∧ _))

/-- Why a row is not replaced by the next one, if it is not: its revision is no number, rows are not
found by their keys, the next revision does not fit, or the repository is write-protected. -/
def refusalOf? (db : Database) (row : RootRow) : Option Failure :=
  match countOf row.revision with
  | .error fault => some (.value fault)
  | .ok revision =>
    match db.requireRootKey with
    | .error fault => some (.database fault)
    | .ok _ =>
      if !(Literal.integer (revision + 1)).fits then some (.value .outOfRange)
      else if row.repository ∈ db.writeProtected then some (.database .constraint)
      else none

/-- Why the row of a package is not replaced, if there is one and it is not. -/
def refusal? (db : Database) (key : RootKey) : Option Failure :=
  (db.roots.find? key).bind db.refusalOf?

/-- A row is replaced if that is permitted and there is a next revision. -/
theorem refusalOf?_eq_none_iff {db : Database} {row : RootRow} :
    db.refusalOf? row = none ↔ db.Permits row.repository ∧ row.isRevisable = true := by
  rw [refusalOf?, Permits, RootRow.isRevisable, RootRow.revision?]
  cases countOf row.revision with
  | error fault => simp [Except.toOption]
  | ok revision =>
    dsimp only [Except.toOption]
    cases db.requireRootKey with
    | error fault => simp
    | ok _ =>
      by_cases fits : (Literal.integer (revision + 1)).fits = true
      · by_cases locked : row.repository ∈ db.writeProtected <;> simp [fits, locked]
      · simp [fits]

/-- A refusal comes from the database or a value. -/
theorem refusalOf?_cases {db : Database} {row : RootRow} {failure : Failure}
    (refused : db.refusalOf? row = some failure) :
    (∃ fault, failure = .database fault) ∨ ∃ fault, failure = .value fault := by
  rw [refusalOf?] at refused
  split at refused
  · cases refused
    exact .inr ⟨_, rfl⟩
  split at refused
  · cases refused
    exact .inl ⟨_, rfl⟩
  split at refused
  · cases refused
    exact .inr ⟨_, rfl⟩
  split at refused
  · cases refused
    exact .inl ⟨_, rfl⟩
  · cases refused

/-- A write without a guard replaces a row unless it is refused. -/
theorem putRoot_of_present {db : Database} {key : RootKey} {row : RootRow}
    (usable : db.holds .packageRoots = true) (found : db.roots.find? key = some row) (root : Root) :
    db.putRoot key none root =
      match db.refusal? key with
      | some failure => .error failure
      | none => .ok (db.written key root) := by
  have required : db.require .packageRoots = .ok () := if_pos usable
  have repository : row.repository = key.1 := congrArg Prod.fst (Table.key_of_find? found)
  have revision : db.revision? key = row.revision? := revision?_of_find? found
  rw [putRoot, rootRow?_of_holds usable, found, refusal?, found, Option.bind_some, refusalOf?,
    written, revision]
  dsimp only [revisionOf]
  rw [RootRow.revision?]
  cases countOf row.revision with
  | error fault => rfl
  | ok revision =>
    have held : db.roots.holds (nextRow key (some revision) root).key = true :=
      congrArg Option.isSome found
    dsimp only
    rw [if_pos (guardAccepts_none _), writeRoot, required, held, repository]
    cases db.requireRootKey with
    | error fault => rfl
    | ok _ =>
      simp only [bind, Except.bind, Except.mapError, Bool.true_or, if_true, nextRow,
        Option.getD_some]
      split
      · rfl
      · split <;> rfl

section Written

variable (db : Database) (key : RootKey) (root : Root)

theorem find?_written_self : (db.written key root).roots.find? key =
    some (nextRow key (db.revision? key) root) :=
  db.roots.find?_put_self _

theorem find?_written_of_ne {other : RootKey} (differ : other ≠ key) :
    (db.written key root).roots.find? other = db.roots.find? other :=
  db.roots.find?_put_of_ne _ differ

theorem revision?_written_self :
    (db.written key root).revision? key = some (db.revision key + 1) := by
  rw [revision?, find?_written_self]
  rfl

theorem revision?_written_of_ne {other : RootKey} (differ : other ≠ key) :
    (db.written key root).revision? other = db.revision? other := by
  rw [revision?, revision?, find?_written_of_ne db key root differ]

theorem revision_written_self : (db.written key root).revision key = db.revision key + 1 := by
  rw [revision, revision?_written_self]
  rfl

theorem revision_written_of_ne {other : RootKey} (differ : other ≠ key) :
    (db.written key root).revision other = db.revision other := by
  rw [revision, revision, revision?_written_of_ne db key root differ]

theorem document?_written_of_ne {other : RootKey} (differ : other ≠ key) :
    (db.written key root).document? other = db.document? other := by
  rw [document?, document?, find?_written_of_ne db key root differ]

variable {root}

/-- After a write the document says about tarballs what was written. -/
theorem document?_written_self (storable : Members.Storable root) :
    ∃ after, (db.written key root).document? key = some after ∧
      ∀ version field, Root.distText? version field after = Root.distText? version field root := by
  rw [document?, find?_written_self, Option.bind_some, document?_nextRow storable]
  refine ⟨_, rfl, fun version field => ?_⟩
  rw [Package.distText?_sorted (storable_withRevision storable _), distText?_withRevision]

end Written

end Database

end RegistryMend.Storage
