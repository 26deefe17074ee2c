import RegistryMend.Journal.Record
import RegistryMend.Journal.RotatingFile
import RegistryMend.Settings.Validation

/-! # Handlers

The console shows records from a level on that can be set, and lone surrogates by their code points.
The error log takes warnings and what is more important, and the audit log the corrected package
roots.
-/

namespace RegistryMend

/-- What has been written. -/
structure Journal where
  console : String := ""
  errors : Journal.RotatingFile := {}
  audit : Journal.RotatingFile := {}
deriving DecidableEq, Repr

end RegistryMend

namespace RegistryMend.Journal

/-- How records are handled. -/
structure Handlers where
  /-- The least rank that the console shows. -/
  consoleRank : Nat
  rotation : Rotation
deriving DecidableEq, Repr

namespace Handlers

/-- The handlers for settings. -/
def ofSettings (settings : Settings) : Handlers :=
  ⟨rankNamed settings.logLevel.name, ⟨settings.logMaxBytes, settings.logBackupCount⟩⟩

/-- The rank below which records are dropped at once. -/
def rootRank (handlers : Handlers) : Nat :=
  min handlers.consoleRank Level.info.rank

/-- Hands a record to the handlers. -/
def handle (handlers : Handlers) (stamp : String) (journal : Journal) (record : Record) : Journal :=
  if record.level.rank < handlers.rootRank then journal
  else
    let record := record.tempered
    let console :=
      if handlers.consoleRank ≤ record.level.rank then
        journal.console ++ (record.line stamp).escaped ++ "\n"
      else journal.console
    let errors :=
      if Level.warning.rank ≤ record.level.rank then
        journal.errors.write handlers.rotation (record.line stamp)
      else journal.errors
    let audit :=
      if Level.info.rank ≤ record.level.rank ∧ record.isAudited then
        journal.audit.write handlers.rotation (record.auditLine stamp)
      else journal.audit
    ⟨console, errors, audit⟩

/-- Hands records to the handlers one after the other. -/
def handleAll (handlers : Handlers) (stamp : String) (journal : Journal) (records : List Record) :
    Journal :=
  records.foldl (handlers.handle stamp) journal

end Handlers

end RegistryMend.Journal
