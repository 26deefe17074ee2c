import RegistryMend.Storage.Path

/-! # Places

Where a repair finds its files below the directory it runs in.
-/

namespace RegistryMend.Settings

open RegistryMend.Storage (Path)

/-- The files and directories of a repair. -/
structure Places where
  root : Path
  init : Path
  data : Path
  blobs : Path
  logs : Path
  database : Path
  schema : Path
  lock : Path
  errorLog : Path
  auditLog : Path
  settings : Path
deriving DecidableEq, Repr

/-- The places below a directory. -/
def Places.below (root settings : Path) : Places :=
  let data := root.child "data"
  let init := root.child "init"
  let logs := data.child "logs"
  { root, init, data, logs, settings
    blobs := data.child "blobs"
    database := data.child "storage.db"
    schema := init.child "storage_db.sql"
    lock := data.child "repair.lock"
    errorLog := logs.child "repair_errors.log"
    auditLog := logs.child "repaired_roots.log" }

end RegistryMend.Settings
