import RegistryMend.Proofs.Storage.Documents
import RegistryMend.Proofs.Storage.Tables

/-! # The package roots of one repository

Reading and writing a package root concerns the rows of its repository alone. Both do the same in
the database that has no other rows, and a write leaves the rows of every other repository.
-/

namespace RegistryMend.Storage

open RegistryMend.Package (Root)

namespace Database

variable (repository : String) (db : Database)

/-- The package roots of a repository. -/
def rootsOf : List RootRow :=
  db.roots.rows.filter (·.repository = repository)

/-- The sum of the revisions of a repository's package roots. -/
def revisions : Int :=
  ((db.rootsOf repository).map RootRow.count).sum

/-- The database with the package roots of one repository alone. -/
def only : Database :=
  db.withRoots (db.roots.select (·.1 = repository))

theorem find?_only (packageId : String) :
    (db.only repository).roots.find? (repository, packageId) =
      db.roots.find? (repository, packageId) :=
  db.roots.find?_select (decide_eq_true rfl)

theorem rootRow?_only (packageId : String) :
    (db.only repository).rootRow? (repository, packageId) =
      db.rootRow? (repository, packageId) := by
  rw [rootRow?, rootRow?, find?_only]
  rfl

theorem getRoot_only (packageId : String) :
    (db.only repository).getRoot (repository, packageId) =
      db.getRoot (repository, packageId) := by
  rw [getRoot, getRoot, rootRow?_only]

/-- A row is written among the rows of its repository as among all. -/
theorem writeRoot_only {row : RootRow} (own : row.repository = repository) :
    (db.only repository).writeRoot row = (db.writeRoot row).map (only repository) := by
  have selected : decide (row.key.1 = repository) = true := decide_eq_true own
  have held : (db.only repository).roots.holds row.key = db.roots.holds row.key :=
    congrArg Option.isSome (db.roots.find?_select selected)
  have put : (db.only repository).roots.put row = (db.roots.put row).select (·.1 = repository) :=
    (db.roots.select_put selected).symm
  have required : (db.only repository).require .packageRoots = db.require .packageRoots := rfl
  have keyed : (db.only repository).requireRootKey = db.requireRootKey := rfl
  have allowed : (db.only repository).writeProtected = db.writeProtected := rfl
  have bound : (db.only repository).bindsRoots = db.bindsRoots := rfl
  have known : (db.only repository).repositories = db.repositories := rfl
  rw [writeRoot, writeRoot, held, put, required, keyed, allowed, bound, known]
  cases db.require .packageRoots with
  | error fault => rfl
  | ok _ =>
    cases db.requireRootKey with
    | error fault => rfl
    | ok _ =>
      dsimp only [bind, Except.bind, Except.mapError]
      split
      · rfl
      split
      · rfl
      · split <;> rfl

theorem putRoot_only (packageId : String) (expected : Option String) (root : Root) :
    (db.only repository).putRoot (repository, packageId) expected root =
      (db.putRoot (repository, packageId) expected root).map (only repository) := by
  rw [putRoot, putRoot, rootRow?_only]
  cases db.rootRow? (repository, packageId) with
  | error fault => rfl
  | ok row =>
    cases found : revisionOf row with
    | error failure => simp only [found, Except.map]
    | ok revision =>
      simp only [found]
      split
      · exact writeRoot_only repository db rfl
      · rfl

variable {repository db}

/-- A write leaves the rows of other repositories. -/
theorem rootsOf_written {key : RootKey} (root : Root) (other : key.1 ≠ repository) :
    (db.written key root).rootsOf repository = db.rootsOf repository := by
  have beside : (db.written key root).roots.select (·.1 = repository) =
      db.roots.select (·.1 = repository) :=
    db.roots.select_put_of_not (decide_eq_false other)
  exact congrArg Table.rows beside

/-- A write raises one revision of its repository by one. -/
theorem revisions_written (db : Database) (key : RootKey) (root : Root) :
    (db.written key root).revisions key.1 = db.revisions key.1 + 1 := by
  let row := nextRow key (db.revision? key) root
  let own := db.roots.select (·.1 = key.1)
  have selected : decide (row.key.1 = key.1) = true := decide_eq_true rfl
  have put : (db.written key root).roots.select (·.1 = key.1) = own.put row :=
    db.roots.select_put selected
  have before : own.find? row.key = db.roots.find? key := db.roots.find?_select selected
  have next : row.count = db.revision key + 1 := rfl
  have sum := own.sum_put row RootRow.count
  change (((db.written key root).roots.select (·.1 = key.1)).rows.map RootRow.count).sum =
    (own.rows.map RootRow.count).sum + 1
  rw [put]
  rw [before, ← revision_eq_count] at sum
  omega

/-- Databases that differ in their package roots at most are the same for a repository with the
same rows in both. -/
theorem only_withRoots {roots : Table RootRow RootRow.key}
    (same : (db.withRoots roots).rootsOf repository = db.rootsOf repository) :
    (db.withRoots roots).only repository = db.only repository := by
  have selected : roots.select (·.1 = repository) = db.roots.select (·.1 = repository) :=
    Table.ext_rows same
  exact congrArg db.withRoots selected

end Database

namespace UnitOfWork

variable (repository : String) (unit : UnitOfWork)

/-- The unit of work with the package roots of one repository alone. -/
def only : UnitOfWork :=
  ⟨unit.committed.only repository, unit.pending.map (Database.only repository)⟩

theorem current_only : (unit.only repository).current = unit.current.only repository := by
  obtain ⟨committed, pending⟩ := unit
  cases pending <;> rfl

theorem write_only (db : Database) :
    (unit.only repository).write (db.only repository) = (unit.write db).only repository := by
  obtain ⟨committed, pending⟩ := unit
  cases pending <;> rfl

end UnitOfWork

end RegistryMend.Storage
