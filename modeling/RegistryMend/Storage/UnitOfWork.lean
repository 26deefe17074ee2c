import RegistryMend.Storage.Database

/-! # Units of work

A unit of work begins with a transaction. Within it, changes are seen by the unit alone until it is
committed, and rolling back forgets them. After that there is no transaction, and every change is
kept at once.
-/

namespace RegistryMend.Storage

/-- The committed database and, within a transaction, the database with its changes. -/
structure UnitOfWork where
  committed : Database
  pending : Option Database
deriving Repr

namespace UnitOfWork

/-- Begins a transaction. -/
def begin (db : Database) : UnitOfWork :=
  ⟨db, some db⟩

/-- The database as the unit sees it. -/
def current (unit : UnitOfWork) : Database :=
  unit.pending.getD unit.committed

/-- Changes the database as the unit sees it. -/
def write (db : Database) (unit : UnitOfWork) : UnitOfWork :=
  match unit.pending with
  | some _ => { unit with pending := some db }
  | none => { unit with committed := db }

/-- Keeps the changes and ends the transaction, if there is one. -/
def commit (unit : UnitOfWork) : UnitOfWork :=
  ⟨unit.current, none⟩

/-- Forgets the changes and ends the transaction, if there is one. -/
def rollback (unit : UnitOfWork) : UnitOfWork :=
  ⟨unit.committed, none⟩

@[simp] theorem current_begin (db : Database) : (begin db).current = db := rfl

@[simp] theorem committed_commit (unit : UnitOfWork) :
    unit.commit.committed = unit.current := rfl

@[simp] theorem current_write (db : Database) (unit : UnitOfWork) :
    (unit.write db).current = db := by
  unfold write current
  cases unit.pending <;> rfl

end UnitOfWork

end RegistryMend.Storage
