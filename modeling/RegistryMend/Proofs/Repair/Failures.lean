import RegistryMend.Proofs.Package.Outcomes
import RegistryMend.Proofs.Repair.Orders
import RegistryMend.Proofs.Repair.Pages
import RegistryMend.Proofs.Storage.GroundedTrees

/-! # How batches fail

A repair is meant to fail with a manifest that cannot be used or with a transaction that the database
refuses. Other failures leave a batch as they are: attributes on its page that cannot be read, a
recorded blob whose size is no whole number or whose file has too long a name, a package whose name
cannot be encoded, and a stale package root whose revision is no whole number or has none behind it
that fits.
-/

namespace RegistryMend.Repair

open RegistryMend.Json (Members Value)
open RegistryMend.Sql (Literal)
open RegistryMend.Storage (AssetRow Blob BlobRow Database RootRow countOf)

/-! ## Failures of a repair -/

/-- Whether a failure is one that a repair is meant to end with: of a manifest or of a
transaction. -/
def isForeseen : Failure → Bool
  | .manifest .. | .transaction .. => true
  | _ => false

/-- A reader that fails only with problems of the manifest. -/
def ManifestReader.Strict (reader : ManifestReader) : Prop :=
  ∀ opening failure, reader opening = .error failure →
    ∃ problem asset, failure = .manifest problem asset

/-- What is not foreseen leaves the transaction as it is. -/
theorem transactionFailure_of_unforeseen {repository : String} {failure : Failure}
    (unforeseen : isForeseen (transactionFailure repository failure) = false) :
    transactionFailure repository failure = failure := by
  cases failure with
  | database fault => cases unforeseen
  | _ => rfl

/-! ## Assets -/

/-- What the work on an asset ends with, without being foreseen. -/
inductive Plan.Stuck (plan : Plan) (repository : String) (db : Database) (asset : Asset) :
    Failure → Prop
  /-- The recorded size of the blob does not count as a whole number. -/
  | unmeasured {ref : String} {row : BlobRow} {fault : ValueFault}
      (checked : asset.checkedBlob? = some ref) (recorded : db.blobRow? ref = .ok (some row))
      (odd : row.sizeCount = .error fault) :
      Plan.Stuck plan repository db asset (.value fault)
  /-- The file of the recorded blob has too long a name. -/
  | outOfReach {ref : String} {row : BlobRow} {size : Int}
      (checked : asset.checkedBlob? = some ref) (recorded : db.blobRow? ref = .ok (some row))
      (measured : row.sizeCount = .ok size)
      (tooLong : plan.files.readBlob ref = .error .nameTooLong) :
      Plan.Stuck plan repository db asset (.file .nameTooLong)
  /-- The name of the package has no form in UTF-8. -/
  | unnameable {ref : String} {blob : Blob} {manifest : Members} {told : List Event}
      {release : Release} (checked : asset.checkedBlob? = some ref)
      (found : findBlob db plan.files ref = .ok (some blob))
      (read : plan.reader (blob.opening 0) = .ok (manifest, told))
      (described : releaseOf repository asset blob manifest = .ok release)
      (usable : db.holds .packageRoots = true) (lone : release.id.text.plain? = none) :
      Plan.Stuck plan repository db asset (.value .notEncodable)
  /-- The package root is stale, and its revision does not count as a whole number. -/
  | unnumbered {announcement : Announcement} {row : RootRow} {fault : ValueFault}
      (announced : plan.announcement? db repository asset = .ok (some announcement))
      (usable : db.holds .packageRoots = true) (held : row ∈ db.roots.rows)
      (stale : announcement.Concerns repository row) (odd : countOf row.revision = .error fault) :
      Plan.Stuck plan repository db asset (.value fault)
  /-- The package root is stale, and the revision behind its own does not fit. -/
  | exhausted {announcement : Announcement} {row : RootRow} {revision : Int}
      (announced : plan.announcement? db repository asset = .ok (some announcement))
      (usable : db.holds .packageRoots = true) (keyed : db.requireRootKey = .ok ())
      (held : row ∈ db.roots.rows) (stale : announcement.Concerns repository row)
      (numbered : countOf row.revision = .ok revision)
      (last : (Literal.integer (revision + 1)).fits = false) :
      Plan.Stuck plan repository db asset (.value .outOfRange)

section Asset

variable {plan : Plan} {repository : String} {db : Database} {asset : Asset} {failure : Failure}

theorem isForeseen_of_stuck (stuck : plan.Stuck repository db asset failure) (other : String) :
    isForeseen (transactionFailure other failure) = false := by
  cases stuck <;> rfl

/-- Looking for a blob fails in an unforeseen way if it is recorded with a size that is no whole number,
or its file has too long a name. -/
theorem stuck_of_findBlob {ref : String} (checked : asset.checkedBlob? = some ref)
    (fails : findBlob db plan.files ref = .error failure)
    (unforeseen : isForeseen (transactionFailure repository failure) = false) :
    plan.Stuck repository db asset failure := by
  rw [findBlob] at fails
  split at fails
  · cases fails
    cases unforeseen
  · cases fails
  next row recorded =>
  split at fails
  · next odd =>
    cases fails
    exact .unmeasured checked recorded odd
  next size measured =>
  split at fails
  · next read =>
    cases fails
    obtain ⟨rfl, -⟩ := Storage.Tree.fault_of_readFile read
    exact .outOfReach checked recorded measured read
  · cases fails
  · cases fails

/-- What an asset announces cannot be told in an unforeseen way because of its blob or of the name of
its package. -/
theorem stuck_of_announcement? (strict : plan.reader.Strict)
    (fails : plan.announcement? db repository asset = .error failure)
    (unforeseen : isForeseen (transactionFailure repository failure) = false) :
    plan.Stuck repository db asset failure := by
  rw [Plan.announcement?] at fails
  split at fails
  · cases fails
  next ref checked =>
  split at fails
  · next missed =>
    cases fails
    exact stuck_of_findBlob checked missed unforeseen
  · cases fails
  next blob found =>
  split at fails
  · next unread =>
    cases fails
    obtain ⟨problem, asset_, rfl⟩ := strict _ _ unread
    cases unforeseen
  next manifest told read =>
  split at fails
  · next undescribed =>
    cases fails
    rw [releaseOf] at undescribed
    split at undescribed <;> cases undescribed
    cases unforeseen
  next release described =>
  cases made : Announcement.make db repository blob release with
  | ok announcement =>
    rw [made] at fails
    cases fails
  | error early =>
    rw [made] at fails
    cases fails
    obtain ⟨lone, rfl⟩ := Database.keyFor_eq_error_iff.mp (make_eq_error_iff.mp made)
    cases usable : db.holds .packageRoots with
    | false =>
      rw [usable] at unforeseen
      cases unforeseen
    | true => exact .unnameable checked found read described usable lone

/-- What is announced is refused in an unforeseen way because of the revision of the root. -/
theorem stuck_of_refused {announcement : Announcement}
    (announced : plan.announcement? db repository asset = .ok (some announcement))
    (refused : announcement.Refused repository db failure)
    (unforeseen : isForeseen (transactionFailure repository failure) = false) :
    plan.Stuck repository db asset failure := by
  rcases refused with ⟨-, rfl⟩ | ⟨usable, disagrees, refused⟩
  · cases unforeseen
  obtain ⟨row, found, refused⟩ := Option.bind_eq_some_iff.mp refused
  have held : row ∈ db.roots.rows := List.mem_of_find?_eq_some found
  have stale : announcement.Concerns repository row := (concerns_iff held).mpr ⟨found, disagrees⟩
  rw [Database.refusalOf?] at refused
  split at refused
  · next odd =>
    cases refused
    exact .unnumbered announced usable held stale odd
  next revision numbered =>
  split at refused
  · cases refused
    cases unforeseen
  next keyed =>
  split at refused
  · next last =>
    cases refused
    exact .exhausted announced usable keyed held stale numbered (Bool.not_eq_true' _ |>.mp last)
  split at refused
  · cases refused
    cases unforeseen
  · cases refused

/-- What an asset is stuck with is what a visit to it fails with. -/
theorem Plan.Stuck.fails (stuck : plan.Stuck repository db asset failure) :
    plan.announcement? db repository asset = .error failure ∨
      ∃ announcement, plan.announcement? db repository asset = .ok (some announcement) ∧
        announcement.Refused repository db failure := by
  cases stuck with
  | unmeasured checked recorded odd =>
    left
    simp only [Plan.announcement?, checked, findBlob, recorded, odd]
  | outOfReach checked recorded measured tooLong =>
    left
    simp only [Plan.announcement?, checked, findBlob, recorded, measured, tooLong]
  | @unnameable ref blob manifest told release checked found read described usable lone =>
    have unnamed : db.keyFor repository release.id = .error (.value .notEncodable) :=
      Database.keyFor_eq_error_iff.mpr ⟨lone, (if_pos usable).symm⟩
    left
    simp only [Plan.announcement?, checked, found, read, described]
    rw [make_eq_error_iff.mpr unnamed]
    rfl
  | unnumbered announced usable held stale odd =>
    obtain ⟨found, disagrees⟩ := (concerns_iff held).mp stale
    refine .inr ⟨_, announced, .inr ⟨usable, disagrees, ?_⟩⟩
    rw [Database.refusal?, found, Option.bind_some, Database.refusalOf?, odd]
  | exhausted announced usable keyed held stale numbered last =>
    obtain ⟨found, disagrees⟩ := (concerns_iff held).mp stale
    refine .inr ⟨_, announced, .inr ⟨usable, disagrees, ?_⟩⟩
    simp only [Database.refusal?, found, Option.bind_some, Database.refusalOf?, numbered, keyed,
      last, Bool.not_false, if_true]

/-- A visit to an asset ends in an unforeseen way if and only if the asset is stuck with that. -/
theorem Visit.stuck_iff (strict : plan.reader.Strict) {result : Except Failure Bool}
    {after : Database} {events : Array Event}
    (visit : Visit plan repository asset db result after events) :
    (result = .error failure ∧ isForeseen (transactionFailure repository failure) = false) ↔
      plan.Stuck repository db asset failure := by
  rw [visit.failed_iff]
  constructor
  · rintro ⟨unread | ⟨announcement, announced, refused⟩, unforeseen⟩
    · exact stuck_of_announcement? strict unread unforeseen
    · exact stuck_of_refused announced refused unforeseen
  · intro stuck
    exact ⟨stuck.fails, isForeseen_of_stuck stuck repository⟩

end Asset

/-! ## Pages -/

/-- Rows cannot be read if the attributes of one of them cannot. -/
theorem assetsOfRows_of_illegible {before after : List AssetRow} {row : AssetRow}
    {assets : List Asset} {error : Json.ReadError} (legible : assetsOfRows before = .ok assets)
    (unread : readAttributes row.attributes = .error error) :
    assetsOfRows (before ++ row :: after) = .error (.document error) := by
  rw [assetsOfRows_append, legible]
  dsimp only
  rw [assetsOfRows, Asset.ofRow, unread]
  rfl

/-! ## Batches -/

/-- What leaves the batch behind a cursor without being foreseen. -/
inductive Plan.LetsOut (plan : Plan) (repository : String) (cursor : Cursor) (db : Database) :
    Failure → Prop
  /-- The attributes of an asset on the page cannot be read; those before it can. -/
  | illegible {before after : List AssetRow} {row : AssetRow} {assets : List Asset}
      {error : Json.ReadError} (usable : db.holds .assets = true)
      (taken : (rowsBehind db repository cursor).take plan.batchSize = before ++ row :: after)
      (legible : assetsOfRows before = .ok assets)
      (unread : readAttributes row.attributes = .error error) :
      Plan.LetsOut plan repository cursor db (.document error)
  /-- An asset on the page is stuck; those before it are worked on. -/
  | stuck {before after : List Asset} {asset : Asset} {repaired : Nat} {middle : Database}
      {told : Array Event} {failure : Failure}
      (read : page db repository cursor plan.batchSize = .ok (before ++ asset :: after))
      (passed : Visits plan repository before db (.ok repaired) middle told)
      (stuck : plan.Stuck repository middle asset failure) :
      Plan.LetsOut plan repository cursor db failure

section Batch

variable {plan : Plan} {repository : String} {cursor : Cursor} {db : Database} {failure : Failure}

/-- What is let out is what the batch ends with. -/
theorem Plan.LetsOut.runs (strict : plan.reader.Strict)
    (escapes : plan.LetsOut repository cursor db failure) :
    ∃ after events, Work.Runs (processBatch plan repository cursor) db (.error failure) after
      events := by
  cases escapes with
  | @illegible _ _ _ _ error usable taken legible unread =>
    have read : page db repository cursor plan.batchSize = .error (.document error) := by
      rw [page_eq usable, taken, assetsOfRows_of_illegible legible unread]
    exact ⟨_, _, (BatchRun.unread read).runs⟩
  | @stuck before after asset repaired middle told _ read passed stuck =>
    obtain ⟨result, last, others, visited⟩ := exists_visited plan repository asset middle
    obtain ⟨rfl, unforeseen⟩ := (visited.visit.stuck_iff strict).mpr stuck
    have run := (BatchRun.stopped read (passed.append (.stop visited))).runs
    rw [transactionFailure_of_unforeseen unforeseen] at run
    exact ⟨_, _, run⟩

end Batch

end RegistryMend.Repair
