import RegistryMend.Repair.Page
import RegistryMend.Repair.Reconcile
import RegistryMend.Storage.BlobFiles

/-! # Batches

A batch is the work on one page of assets within one transaction. If it ends with a failure,
nothing that it wrote remains, and a fault of the database becomes a failure of the transaction.
-/

namespace RegistryMend.Repair

open RegistryMend.Storage (Blob Database Opening Stream Tree UnitOfWork databaseRoots)

/-- What a repair needs besides the database. -/
structure Plan where
  /-- The format of the packages to repair. -/
  format : String
  /-- The number of assets in a batch. -/
  batchSize : Nat
  /-- Whether the failure of a repository leaves the others to be repaired. -/
  isolateFailures : Bool
  files : Tree
  reader : ManifestReader

/-- What a batch did. -/
structure BatchResult where
  next : Option Cursor
  scanned : Nat
  repaired : Nat
deriving DecidableEq, Repr

/-- A failure as it leaves a transaction for a repository. -/
def transactionFailure (repository : String) : Failure → Failure
  | .database fault => .transaction repository fault
  | failure => failure

/-- The database after a transaction. -/
def closeTransaction {α : Type} (result : Except Failure α) (unit : UnitOfWork) : Database :=
  match result with
  | .ok _ => unit.commit.committed
  | .error _ => unit.rollback.committed

/-- Runs work within a transaction, which is committed if the work succeeds. -/
def inTransaction {α : Type} (work : Work UnitOfWork α) : Work Database α :=
  work.within UnitOfWork.begin fun _ => closeTransaction

/-- Runs work within a transaction for a repository. -/
def runBatch {α : Type} (repository : String) (work : Work UnitOfWork α) : Work Database α :=
  ExceptT.adapt (transactionFailure repository) (inTransaction work)

/-- The blob with a reference, if it is recorded and its file is there. Its size must be a number. -/
def findBlob (db : Database) (files : Tree) (ref : String) : Except Failure (Option Blob) :=
  match db.blobRow? ref with
  | .error fault => .error (.database fault)
  | .ok none => .ok none
  | .ok (some row) =>
    match row.sizeCount with
    | .error fault => .error (.value fault)
    | .ok size =>
      match files.readBlob ref with
      | .error fault => .error (.file fault)
      | .ok none => .ok none
      | .ok (some content) =>
        let opening : Opening := .ok (Stream.ofBytes content)
        .ok (some ⟨ref, row.sha1, size, fun _ => opening⟩)

/-- Works on one asset and says whether a root was corrected. Only tarballs with a blob count. -/
def processAsset (plan : Plan) (repository : String) (asset : Asset) : Work UnitOfWork Bool := do
  match asset.checkedBlob? with
  | none => return false
  | some ref =>
    match ← Work.ofExcept (findBlob (← Work.store).current plan.files ref) with
    | none =>
      Work.report (.blobMissing asset.name ref)
      return false
    | some blob => reconcile databaseRoots plan.reader repository asset blob

/-- Works on assets one after the other and counts the corrected roots. -/
def processAssets (plan : Plan) (repository : String) : List Asset → Work UnitOfWork Nat
  | [] => return 0
  | asset :: rest => do
    let changed ← processAsset plan repository asset
    let repaired ← processAssets plan repository rest
    return (if changed then 1 else 0) + repaired

/-- The work of a batch. -/
def batchWork (plan : Plan) (repository : String) (cursor : Cursor) :
    Work UnitOfWork BatchResult := do
  let assets ← Work.ofExcept (page (← Work.store).current repository cursor plan.batchSize)
  let repaired ← processAssets plan repository assets
  return ⟨Cursor.next (assets.map Asset.id) (some plan.batchSize), assets.length, repaired⟩

/-- Runs the batch behind a cursor. -/
def processBatch (plan : Plan) (repository : String) (cursor : Cursor) :
    Work Database BatchResult := do
  Work.report (.batchBegun plan.format cursor.value plan.batchSize)
  runBatch repository (batchWork plan repository cursor)

end RegistryMend.Repair
