import RegistryMend.Proofs.Package.Manifest
import RegistryMend.Proofs.Repair.Runs
import RegistryMend.Proofs.Sequencing
import RegistryMend.Proofs.Storage.Documents
import RegistryMend.Repair.TarballReader

/-! # What the work on one asset does

An asset announces the release in its tarball, or nothing if it is no tarball or has no blob. The
work on it corrects the document of the announced package if that has another checksum, and reports
this once. Otherwise the database stays as it is.
-/

namespace RegistryMend.Repair

open RegistryMend.Json (Members)
open RegistryMend.Package (Root)
open RegistryMend.Storage (Blob Database RootKey RootStore UnitOfWork databaseRoots)

/-! ## Reports of corrections -/

/-- Whether an event says that the root of a package was corrected. -/
def Event.corrects (key : RootKey) : Event → Bool
  | rootRepaired repository packageId .. => repository == key.1 && packageId == ↑key.2
  | _ => false

/-- How many events say that the root of a package was corrected. -/
def corrections (key : RootKey) (events : Array Event) : Nat :=
  events.countP (·.corrects key)

@[simp] theorem corrections_empty (key : RootKey) : corrections key #[] = 0 := rfl

@[simp] theorem corrections_append (key : RootKey) (first second : Array Event) :
    corrections key (first ++ second) = corrections key first + corrections key second :=
  Array.countP_append

theorem corrections_singleton (key : RootKey) (event : Event) :
    corrections key #[event] = if event.corrects key then 1 else 0 := by
  rw [corrections, ← Array.push_empty, Array.countP_push]
  simp

/-- An event that is not audited says that no root was corrected. -/
theorem Event.corrects_of_not_audited {event : Event} (silent : event.audited? = none)
    (key : RootKey) : event.corrects key = false := by
  cases event <;> first | rfl | cases silent

/-- Whether an event is about a single asset. -/
def Event.concernsAsset : Event → Bool
  | blobMissing .. | manifestRead .. | rootRepaired .. | updateFailed .. | hashFailed .. => true
  | _ => false

/-- Events about assets that report no correction. -/
def Silent (events : Array Event) : Prop :=
  ∀ event ∈ events, event.concernsAsset = true ∧ event.audited? = none

theorem silent_empty : Silent #[] :=
  fun event member => absurd member (Array.not_mem_empty event)

theorem silent_singleton {event : Event} (concerns : event.concernsAsset = true)
    (silent : event.audited? = none) : Silent #[event] := by
  intro other member
  rw [Array.mem_singleton.mp member]
  exact ⟨concerns, silent⟩

theorem Silent.append {first second : Array Event} (left : Silent first) (right : Silent second) :
    Silent (first ++ second) :=
  fun event member => (Array.mem_append.mp member).elim (left event) (right event)

/-- Events about assets that report the correction of one root, or of none. -/
structure Reports (key? : Option RootKey) (events : Array Event) : Prop where
  concerns : ∀ event ∈ events, event.concernsAsset = true
  counted : ∀ key, corrections key events = if key? = some key then 1 else 0

theorem Silent.reports {events : Array Event} (silent : Silent events) : Reports none events := by
  refine ⟨fun event member => (silent event member).1, fun key => ?_⟩
  rw [if_neg (by simp)]
  exact Array.countP_eq_zero.mpr fun event member =>
    Bool.eq_false_iff.mp (Event.corrects_of_not_audited (silent event member).2 key)

/-- The report of a correction behind silent events. -/
theorem Silent.reports_repaired {before : Array Event} (silent : Silent before)
    (repository packageId : String) (version : WideText) (old : Option WideText) (new : String) :
    Reports (some (repository, packageId))
      (before ++ #[.rootRepaired repository ↑packageId version old new]) := by
  refine ⟨fun event member => ?_, fun key => ?_⟩
  · rcases Array.mem_append.mp member with earlier | last
    · exact (silent event earlier).1
    · rw [Array.mem_singleton.mp last]
      rfl
  · rw [corrections_append, silent.reports.counted, if_neg (by simp), corrections_singleton]
    simp [Event.corrects, Prod.ext_iff]

/-! ## Announcements -/

/-- A reader that gives manifests as they are read from text. What it reports is about the asset, and
no correction. -/
def ManifestReader.Faithful (reader : ManifestReader) : Prop :=
  ∀ opening manifest told, reader opening = .ok (manifest, told) →
    Members.Storable manifest ∧ Silent told.toArray

theorem tarballReader_faithful : ManifestReader.Faithful tarballReader := by
  intro opening manifest told read
  rw [tarballReader] at read
  split at read
  · cases read
  · next tarball _ =>
    cases found : Package.readManifest tarball with
    | error failure =>
      rw [found] at read
      cases read
    | ok triple =>
      rw [found] at read
      cases read
      exact ⟨Package.storable_readManifest found, silent_singleton rfl rfl⟩

/-- The release that an asset announces, and its blob. The id of the package can be encoded. -/
structure Announcement where
  blob : Blob
  release : Release
  packageId : String
  named : release.id.text = ↑packageId

/-- The announcement of a release, if the database has a key for its package. -/
def Announcement.make (db : Database) (repository : String) (blob : Blob) (release : Release) :
    Except Failure Announcement :=
  match found : db.keyFor repository release.id with
  | .error failure => .error failure
  | .ok key => .ok ⟨blob, release, key.2, (Database.keyFor_eq_ok_iff.mp found).2⟩

/-- What an asset announces: the release in the tarball with its blob, which must be recorded and
have a file. -/
def Plan.announcement? (plan : Plan) (db : Database) (repository : String) (asset : Asset) :
    Except Failure (Option Announcement) :=
  match asset.checkedBlob? with
  | none => .ok none
  | some ref =>
    match findBlob db plan.files ref with
    | .error failure => .error failure
    | .ok none => .ok none
    | .ok (some blob) =>
      match plan.reader (blob.opening 0) with
      | .error failure => .error failure
      | .ok (manifest, _) =>
        match releaseOf repository asset blob manifest with
        | .error failure => .error failure
        | .ok release => (Announcement.make db repository blob release).map some

/-- The package that an announcement is about. -/
def Announcement.key (announcement : Announcement) (repository : String) : RootKey :=
  (repository, announcement.packageId)

/-- Announcements with the same key are about the same package. -/
theorem Announcement.key_eq_iff {first second : Announcement} {repository : String} :
    first.key repository = second.key repository ↔
      first.release.id.text = second.release.id.text := by
  rw [first.named, second.named, WideText.ofString_inj, key, key, Prod.mk.injEq, eq_self, true_and]

/-- The document of the announced package has the announced checksum, if there is one. -/
def Announcement.Agrees (announcement : Announcement) (repository : String) (db : Database) : Prop :=
  db.AgreesOn (announcement.key repository) announcement.release.version announcement.blob.sha1

/-- Why the announced checksum is not put into a document that has another one: the table cannot be
used, or the database does not let the row be replaced. -/
def Announcement.Refused (announcement : Announcement) (repository : String) (db : Database)
    (failure : Failure) : Prop :=
  db.holds .packageRoots = false ∧ failure = .database .statement ∨
    db.holds .packageRoots = true ∧ ¬announcement.Agrees repository db ∧
      db.refusal? (announcement.key repository) = some failure

/-- Announcements do not depend on the package roots. -/
theorem announcement?_withRoots (plan : Plan) (db : Database)
    (roots : Storage.Table Storage.RootRow Storage.RootRow.key) (repository : String)
    (asset : Asset) : plan.announcement? (db.withRoots roots) repository asset =
      plan.announcement? db repository asset := rfl

theorem agrees_of_absent {announcement : Announcement} {repository : String} {db : Database}
    (absent : db.document? (announcement.key repository) = none) :
    announcement.Agrees repository db := by
  intro root found
  rw [absent] at found
  cases found

/-! ## Corrected roots -/

/-- The integrity text of a blob, empty if the blob cannot be read. -/
def integrityText (tag : WideText) (blob : Blob) : WideText :=
  match integrityOf tag (blob.opening 0) with
  | .ok text => text
  | .error _ => ""

/-- The root that is written in place of a stored one. -/
def Announcement.mended (announcement : Announcement) (stored : Root) : Root :=
  let merged := Package.merge stored announcement.release.fragment
  match Root.distText? announcement.release.version Root.integrityKey stored with
  | none => merged
  | some integrity =>
    if integrity = "" then merged
    else Root.updateDist announcement.release.version (Members.insert Root.integrityKey
      (.str (integrityText (Digest.integrityTag integrity) announcement.blob))) merged

/-- A root that has the checksum for a version and says about others what the stored one does. -/
structure Corrects (version : WideText) (sha1 : String) (stored root : Root) : Prop where
  storable : Members.Storable root
  checksum : Root.distText? version Root.shasumKey root = some ↑sha1
  others : ∀ other : WideText, other ≠ version →
    Root.distText? other Root.shasumKey root = Root.distText? other Root.shasumKey stored

section Mended

variable {plan : Plan} {db : Database} {repository : String} {asset : Asset}
  {announcement : Announcement}

/-- A blob that is found gives its content at every opening. -/
theorem steady_of_findBlob {files : Storage.Tree} {ref : String} {blob : Blob}
    (found : findBlob db files ref = .ok (some blob)) (n : Nat) :
    blob.opening n = blob.opening 0 := by
  rw [findBlob] at found
  split at found
  · cases found
  · cases found
  split at found
  · cases found
  split at found <;> cases found
  rfl

theorem make_eq_ok_iff {blob : Blob} {release : Release} :
    Announcement.make db repository blob release = .ok announcement ↔
      announcement.blob = blob ∧ announcement.release = release := by
  rw [Announcement.make]
  constructor
  · intro made
    split at made
    · cases made
    · cases made
      exact ⟨rfl, rfl⟩
  · rintro ⟨rfl, rfl⟩
    split
    · next failure found =>
      rw [Database.keyFor_of_named announcement.named] at found
      cases found
    · next key found =>
      rw [Database.keyFor_of_named announcement.named] at found
      cases found
      rfl

theorem make_eq_error_iff {blob : Blob} {release : Release} {failure : Failure} :
    Announcement.make db repository blob release = .error failure ↔
      db.keyFor repository release.id = .error failure := by
  rw [Announcement.make]
  split
  · next found => rw [found, Except.error.injEq, Except.error.injEq]
  · next found => simp [found]

/-- An announced release is the one that the manifest in the tarball describes. -/
theorem announcement?_reads
    (announced : plan.announcement? db repository asset = .ok (some announcement)) :
    (∀ n, announcement.blob.opening n = announcement.blob.opening 0) ∧
      ∃ manifest told, plan.reader (announcement.blob.opening 0) = .ok (manifest, told) ∧
        releaseOf repository asset announcement.blob manifest = .ok announcement.release := by
  rw [Plan.announcement?] at announced
  split at announced
  · cases announced
  · split at announced
    · cases announced
    · cases announced
    · next blob found =>
      split at announced
      · cases announced
      · next manifest told read =>
        split at announced
        · cases announced
        · next release described =>
          obtain ⟨_, made, same⟩ := exists_of_map_eq_ok announced
          cases same
          obtain ⟨rfl, rfl⟩ := make_eq_ok_iff.mp made
          exact ⟨steady_of_findBlob found, manifest, told, read, described⟩

theorem releaseOf_fragment {blob : Blob} {manifest : Members} {release : Release}
    (described : releaseOf repository asset blob manifest = .ok release) :
    release.fragment =
      Package.fragmentFor manifest release.id release.version repository blob.sha1 := by
  rw [releaseOf] at described
  split at described
  · cases described
  · cases described
    rfl

/-- The root that is written corrects the stored one. -/
theorem corrects_mended (faithful : ManifestReader.Faithful plan.reader)
    (announced : plan.announcement? db repository asset = .ok (some announcement))
    {stored : Root} (storable : Members.Storable stored) :
    Corrects announcement.release.version announcement.blob.sha1 stored
      (announcement.mended stored) := by
  obtain ⟨-, manifest, told, read, described⟩ := announcement?_reads announced
  have readable := (faithful _ _ _ read).1
  have merged : Corrects announcement.release.version announcement.blob.sha1 stored
      (Package.merge stored announcement.release.fragment) := by
    rw [releaseOf_fragment described]
    refine ⟨Package.storable_merge storable (Package.storable_fragmentFor readable),
      Package.distText?_merge_self readable stored, fun other differ => ?_⟩
    rw [Root.distText?, Root.distText?, Package.dist_merge_of_ne differ]
  rw [Announcement.mended]
  split
  · exact merged
  · split
    · exact merged
    · refine ⟨?_, ?_, fun other differ => ?_⟩
      · exact Package.storable_updateDist merged.storable
          ((Package.storable_dist merged.storable _).insert (Package.storable_str _) _)
      · rw [Package.distText?_updateDist_insert_of_ne (by decide)]
        exact merged.checksum
      · rw [Root.distText?, Package.dist_updateDist_of_ne differ]
        exact merged.others other differ

end Mended

/-! ## Corrections -/

/-- A blob is hashed anew to its integrity text. -/
theorem recalculate_runs {σ : Type} (asset : String) (blob : Blob)
    (steady : ∀ n, blob.opening n = blob.opening 0) (tag : WideText) :
    ∃ events, Silent events ∧ ∀ store : σ,
      Work.Runs (recalculate asset blob tag) store (.ok (integrityText tag blob)) store events := by
  unfold recalculate integrityText
  cases hashed : integrityOf tag (blob.opening 0) with
  | ok text =>
    refine ⟨#[], silent_empty, fun store => .silent_bind (Work.runs_openBlob steady store) ?_⟩
    rw [hashed]
    exact Work.runs_pure text store
  | error fault =>
    refine ⟨#[.hashFailed asset (.file fault)], silent_singleton rfl rfl, fun store =>
      .silent_bind (Work.runs_openBlob steady store) ?_⟩
    rw [hashed]
    exact .bind_silent (Work.runs_report _ store) (Work.runs_pure _ store)

/-- A root with the integrity hashed anew is the root that is written. -/
theorem withIntegrity_runs {σ : Type} (asset : Asset) (announcement : Announcement)
    (steady : ∀ n, announcement.blob.opening n = announcement.blob.opening 0) (stored : Root) :
    ∃ events, Silent events ∧ ∀ store : σ,
      Work.Runs (withIntegrity asset announcement.blob announcement.release.version stored
        (Package.merge stored announcement.release.fragment)) store
        (.ok (announcement.mended stored)) store events := by
  unfold withIntegrity Announcement.mended
  cases Root.distText? announcement.release.version Root.integrityKey stored with
  | none => exact ⟨_, silent_empty, fun store => Work.runs_pure _ store⟩
  | some integrity =>
    by_cases empty : integrity = ""
    · simp only [empty, if_true]
      exact ⟨_, silent_empty, fun store => Work.runs_pure _ store⟩
    · simp only [empty, if_false]
      obtain ⟨events, silent, hashed⟩ := recalculate_runs (σ := σ) asset.name
        announcement.blob steady (Digest.integrityTag integrity)
      exact ⟨events, silent, fun store => .bind_silent (hashed store) (Work.runs_pure _ store)⟩

/-- How the correction of the root that an asset announces ends, and the database after it. -/
inductive Correction (repository : String) (announcement : Announcement) (db : Database) :
    Except Failure (Option (Option WideText)) → Database → Prop
  | agreeing (usable : db.holds .packageRoots = true)
      (agrees : announcement.Agrees repository db) :
      Correction repository announcement db (.ok none) db
  | unreadable {packageId : String} {problem : RootProblem}
      (usable : db.holds .packageRoots = true)
      (absent : db.document? (announcement.key repository) = none) :
      Correction repository announcement db (.error (.rootUnreadable packageId problem)) db
  | mended {old : Option WideText} {stored : Root} {revision : String}
      (usable : db.holds .packageRoots = true)
      (found : db.document? (announcement.key repository) = some stored)
      (differs : Root.distText? announcement.release.version Root.shasumKey stored ≠
        some ↑announcement.blob.sha1)
      (permitted : db.refusal? (announcement.key repository) = none) :
      Correction repository announcement db (.ok (some old)) (db.written
        (announcement.key repository) (announcement.mended (Storage.withRevision revision stored)))
  | failed {failure : Failure} (refused : announcement.Refused repository db failure) :
      Correction repository announcement db (.error failure) db

/-- A unit of work replaces a row unless the database that it sees refuses it. -/
theorem put_of_present {db : Database} {stored : Root} (announcement : Announcement)
    (repository : String) (usable : db.holds .packageRoots = true)
    (found : db.document? (announcement.key repository) = some stored) (root : Root)
    (committed : Database) :
    databaseRoots.put repository announcement.release.id none root ⟨committed, some db⟩ =
      match db.refusal? (announcement.key repository) with
      | some failure => .error failure
      | none => .ok ⟨committed, some (db.written (announcement.key repository) root)⟩ := by
  obtain ⟨row, present, -⟩ := Option.bind_eq_some_iff.mp found
  change db.keyFor repository announcement.release.id >>= (fun key =>
    db.putRoot key none root >>= fun db_ => Except.ok (UnitOfWork.write db_ ⟨committed, some db⟩)) = _
  rw [Database.keyFor_of_named announcement.named]
  change db.putRoot (announcement.key repository) none root >>= _ = _
  rw [Database.putRoot_of_present usable present]
  cases db.refusal? (announcement.key repository) <;> rfl

/-- The lack of a key does not stay with the asset. -/
theorem not_stays_of_unnamed {db : Database} {repository : String} {id : Package.Id}
    {failure : Failure} (unnamed : db.keyFor repository id = .error failure) :
    staysWithAsset failure = false := by
  obtain ⟨-, rfl⟩ := Database.keyFor_eq_error_iff.mp unnamed
  split <;> rfl

/-- What keeps a checksum out of a document does not stay with the asset. -/
theorem Announcement.Refused.not_stays {announcement : Announcement} {repository : String}
    {db : Database} {failure : Failure} (refused : announcement.Refused repository db failure) :
    staysWithAsset failure = false := by
  rcases refused with ⟨-, rfl⟩ | ⟨-, -, refused⟩
  · rfl
  · obtain ⟨row, -, refused⟩ := Option.bind_eq_some_iff.mp refused
    rcases Database.refusalOf?_cases refused with ⟨fault, rfl⟩ | ⟨fault, rfl⟩ <;> rfl

section Correct

variable (repository : String) (asset : Asset) {announcement : Announcement} {db : Database}

theorem getRoot_runs (announcement : Announcement) (committed : Database)
    {result : Except Failure (Option Root)}
    (got : db.getRoot (announcement.key repository) = result) :
    Work.Runs (Work.ofExcept (databaseRoots.get repository announcement.release.id
      ⟨committed, some db⟩)) (⟨committed, some db⟩ : UnitOfWork) result ⟨committed, some db⟩ #[] := by
  refine Work.runs_ofExcept ?_ _
  change db.keyFor repository announcement.release.id >>= db.getRoot = _
  rw [Database.keyFor_of_named announcement.named]
  exact got

/-- A root with another checksum is corrected, unless the database refuses it. -/
theorem correct_runs_of_differs
    (steady : ∀ n, announcement.blob.opening n = announcement.blob.opening 0)
    {stored : Root} {revision : String} (usable : db.holds .packageRoots = true)
    (found : db.document? (announcement.key repository) = some stored)
    (got : db.getRoot (announcement.key repository) =
      .ok (some (Storage.withRevision revision stored)))
    (differs : Root.distText? announcement.release.version Root.shasumKey stored ≠
      some ↑announcement.blob.sha1) :
    ∃ result after events, Correction repository announcement db result after ∧ Silent events ∧
      ∀ committed, Work.Runs
        (correct databaseRoots repository asset announcement.blob announcement.release)
        ⟨committed, some db⟩ result ⟨committed, some after⟩ events := by
  have old := Storage.distText?_withRevision revision stored announcement.release.version
    Root.shasumKey
  obtain ⟨events, silent, hashed⟩ := withIntegrity_runs (σ := UnitOfWork) asset announcement
    steady (Storage.withRevision revision stored)
  have get (committed : Database) := getRoot_runs repository announcement committed got
  have put := put_of_present announcement repository usable found
    (announcement.mended (Storage.withRevision revision stored))
  cases permitted : db.refusal? (announcement.key repository) with
  | some failure =>
    simp only [permitted] at put
    have disagrees : ¬announcement.Agrees repository db := fun agrees =>
      differs (agrees stored found)
    refine ⟨.error failure, db, events, .failed (.inr ⟨usable, disagrees, permitted⟩), silent,
      fun committed =>
        .silent_bind (Work.runs_store _) (.silent_bind (get committed) ?_)⟩
    dsimp only
    rw [if_neg (old.trans_ne differs)]
    exact .bind_silent (hashed _) (.silent_bind (Work.runs_store _)
      (.bind_error (Work.runs_ofExcept (put committed) _)))
  | none =>
    simp only [permitted] at put
    refine ⟨.ok (some (Root.distText? announcement.release.version Root.shasumKey
      (Storage.withRevision revision stored))), db.written (announcement.key repository)
        (announcement.mended (Storage.withRevision revision stored)), events,
      .mended usable found differs permitted, silent, fun committed =>
        .silent_bind (Work.runs_store _) (.silent_bind (get committed) ?_)⟩
    dsimp only
    rw [if_neg (old.trans_ne differs)]
    exact .bind_silent (hashed _) (.silent_bind (Work.runs_store _)
      (.silent_bind (Work.runs_ofExcept (put committed) _)
        (.silent_bind (Work.runs_setStore _ _) (Work.runs_pure _ _))))

theorem correct_runs (announcement : Announcement)
    (steady : ∀ n, announcement.blob.opening n = announcement.blob.opening 0) (db : Database) :
    ∃ result after events, Correction repository announcement db result after ∧ Silent events ∧
      ∀ committed, Work.Runs
        (correct databaseRoots repository asset announcement.blob announcement.release)
        ⟨committed, some db⟩ result ⟨committed, some after⟩ events := by
  rcases db.getRoot_cases (announcement.key repository) with
    ⟨unusable, got⟩ | ⟨usable, absent, got | ⟨packageId, problem, got⟩⟩ |
      ⟨stored, revision, usable, found, got⟩
  · exact ⟨_, _, _, .failed (.inl ⟨unusable, rfl⟩), silent_empty, fun committed =>
      .silent_bind (Work.runs_store _) (.bind_error (getRoot_runs repository _ committed got))⟩
  · have agrees : announcement.Agrees repository db := agrees_of_absent absent
    exact ⟨_, _, _, .agreeing usable agrees, silent_empty, fun committed =>
      .silent_bind (Work.runs_store _)
        (.silent_bind (getRoot_runs repository _ committed got) (Work.runs_pure none _))⟩
  · exact ⟨_, _, _, .unreadable usable absent, silent_empty, fun committed =>
      .silent_bind (Work.runs_store _) (.bind_error (getRoot_runs repository _ committed got))⟩
  · by_cases same : Root.distText? announcement.release.version Root.shasumKey stored =
        some ↑announcement.blob.sha1
    · have agrees : announcement.Agrees repository db := by
        intro root found_
        rw [found] at found_
        cases found_
        exact same
      refine ⟨_, _, _, .agreeing usable agrees, silent_empty, fun committed =>
        .silent_bind (Work.runs_store _)
          (.silent_bind (getRoot_runs repository _ committed got) ?_)⟩
      dsimp only
      rw [if_pos ((Storage.distText?_withRevision ..).trans same)]
      exact Work.runs_pure none _
    · exact correct_runs_of_differs repository asset steady usable found got same

/-- Without a key for its package a release cannot be looked up. -/
theorem correct_runs_of_unnamed {blob : Blob} {release : Release} {failure : Failure}
    (unnamed : db.keyFor repository release.id = .error failure) (committed : Database) :
    Work.Runs (correct databaseRoots repository asset blob release)
      ⟨committed, some db⟩ (.error failure) ⟨committed, some db⟩ #[] := by
  refine .silent_bind (Work.runs_store _) (.bind_error (Work.runs_ofExcept ?_ _))
  change db.keyFor repository release.id >>= db.getRoot = _
  rw [unnamed]
  rfl

end Correct

/-! ## Visits -/

/-- How the work on an asset ends, the database after it, and what it reports. -/
inductive Visit (plan : Plan) (repository : String) (asset : Asset) (db : Database) :
    Except Failure Bool → Database → Array Event → Prop
  /-- Nothing is announced. -/
  | silent {events : Array Event}
      (announced : plan.announcement? db repository asset = .ok none)
      (reported : ManifestReader.Faithful plan.reader → Reports none events) :
      Visit plan repository asset db (.ok false) db events
  /-- The tarball cannot be read. -/
  | unreadable {failure : Failure} {events : Array Event}
      (announced : plan.announcement? db repository asset = .error failure)
      (reported : ManifestReader.Faithful plan.reader → Reports none events) :
      Visit plan repository asset db (.error failure) db events
  /-- The package has no document, or it agrees. -/
  | agreeing {announcement : Announcement} {events : Array Event}
      (announced : plan.announcement? db repository asset = .ok (some announcement))
      (usable : db.holds .packageRoots = true)
      (agrees : announcement.Agrees repository db)
      (reported : ManifestReader.Faithful plan.reader → Reports none events) :
      Visit plan repository asset db (.ok false) db events
  /-- The document is corrected. -/
  | mended {announcement : Announcement} {stored : Root} {revision : String}
      {events : Array Event}
      (announced : plan.announcement? db repository asset = .ok (some announcement))
      (usable : db.holds .packageRoots = true)
      (found : db.document? (announcement.key repository) = some stored)
      (differs : Root.distText? announcement.release.version Root.shasumKey stored ≠
        some ↑announcement.blob.sha1)
      (reported : ManifestReader.Faithful plan.reader →
        Reports (some (announcement.key repository)) events)
      (permitted : db.refusal? (announcement.key repository) = none) :
      Visit plan repository asset db (.ok true) (db.written (announcement.key repository)
        (announcement.mended (Storage.withRevision revision stored))) events
  /-- The database does not let the document be read or corrected. -/
  | failed {announcement : Announcement} {failure : Failure} {events : Array Event}
      (announced : plan.announcement? db repository asset = .ok (some announcement))
      (refused : announcement.Refused repository db failure)
      (reported : ManifestReader.Faithful plan.reader → Reports none events) :
      Visit plan repository asset db (.error failure) db events

/-- A visit fails because the asset announces nothing that can be read, or what it announces is
refused. -/
theorem Visit.failed_iff {plan : Plan} {repository : String} {asset : Asset} {db after : Database}
    {result : Except Failure Bool} {events : Array Event} {failure : Failure}
    (visit : Visit plan repository asset db result after events) :
    result = .error failure ↔ plan.announcement? db repository asset = .error failure ∨
      ∃ announcement, plan.announcement? db repository asset = .ok (some announcement) ∧
        announcement.Refused repository db failure := by
  cases visit with
  | silent announced => simp [announced]
  | unreadable announced => simp [announced, eq_comm]
  | @agreeing announcement _ announced usable agrees =>
    have unrefused : ¬announcement.Refused repository db failure := by
      rintro (⟨unusable, -⟩ | ⟨-, disagrees, -⟩)
      · rw [usable] at unusable
        cases unusable
      · exact disagrees agrees
    simp [announced, unrefused]
  | @mended announcement _ _ _ announced usable _ _ _ permitted =>
    have unrefused : ¬announcement.Refused repository db failure := by
      rintro (⟨unusable, -⟩ | ⟨-, -, refused⟩)
      · rw [usable] at unusable
        cases unusable
      · rw [permitted] at refused
        cases refused
    simp [announced, unrefused]
  | @failed announcement failure_ _ announced refused =>
    have same : announcement.Refused repository db failure ↔ failure_ = failure := by
      refine ⟨fun other => ?_, fun same => same ▸ refused⟩
      rcases refused with ⟨unusable, rfl⟩ | ⟨usable, -, refused⟩ <;>
        rcases other with ⟨unusable_, rfl⟩ | ⟨usable_, -, other⟩
      · rfl
      · rw [unusable] at usable_
        cases usable_
      · rw [usable] at unusable_
        cases unusable_
      · exact Option.some.inj (refused.symm.trans other)
    simp [announced, same]

section Reconcile

variable (plan : Plan) (repository : String) (asset : Asset) (db : Database) {blob : Blob}

/-- Once the release is known, the work on an asset is the correction of the root and what follows
from how it ended. -/
theorem reconcile_runs_of_correct {blob : Blob} {asset : Asset} {db after : Database}
    (steady : ∀ n, blob.opening n = blob.opening 0) {reader : ManifestReader} {manifest : Members}
    {told : List Event} (read : reader (blob.opening 0) = .ok (manifest, told)) {release : Release}
    (described : releaseOf repository asset blob manifest = .ok release)
    {result : Except Failure (Option (Option WideText))} {events : Array Event}
    (run : ∀ committed, Work.Runs (correct databaseRoots repository asset blob release)
      ⟨committed, some db⟩ result ⟨committed, some after⟩ events)
    {final : Except Failure Bool} {rest : Array Event}
    (next : ∀ committed, Work.Runs (match result with
      | .ok none => return false
      | .ok (some old) => do
        Work.report (.rootRepaired repository release.id.text release.version old blob.sha1)
        return true
      | .error failure =>
        if staysWithAsset failure then do
          Work.report (.updateFailed asset.name failure)
          return false
        else throw failure)
      (⟨committed, some after⟩ : UnitOfWork) final ⟨committed, some after⟩ rest)
    (committed : Database) :
    Work.Runs (reconcile databaseRoots reader repository asset blob)
      (⟨committed, some db⟩ : UnitOfWork) final ⟨committed, some after⟩
      (told.toArray ++ (events ++ rest)) :=
  .silent_bind (Work.runs_openBlob steady _) (.silent_bind (Work.runs_ofExcept read _)
    (.bind (Work.runs_forM_report told _) (.silent_bind (Work.runs_ofExcept described _)
      (.bind (run committed).attempt (next committed)))))

/-- A failure that does not stay with the asset ends the work. -/
theorem throws_runs {σ : Type} {failure : Failure} (leaves : staysWithAsset failure = false)
    (asset : String) (store : σ) :
    Work.Runs (if staysWithAsset failure then do
        Work.report (.updateFailed asset failure)
        return false
      else throw failure) store (.error failure : Except Failure Bool) store #[] := by
  rw [leaves]
  exact Work.runs_throw failure store

/-- Once the release is known, the work on an asset is a visit. -/
theorem release_runs {blob : Blob} (steady : ∀ n, blob.opening n = blob.opening 0)
    {manifest : Members} {told : List Event}
    (read : plan.reader (blob.opening 0) = .ok (manifest, told)) {release : Release}
    (described : releaseOf repository asset blob manifest = .ok release)
    (announced : plan.announcement? db repository asset =
      (Announcement.make db repository blob release).map some) :
    ∃ result after events, Visit plan repository asset db result after events ∧
      ∀ committed, Work.Runs (reconcile databaseRoots plan.reader repository asset blob)
        ⟨committed, some db⟩ result ⟨committed, some after⟩ events := by
  have quiet {events : Array Event} (silent : Silent events)
      (faithful : ManifestReader.Faithful plan.reader) : Silent (told.toArray ++ events) :=
    (faithful _ _ _ read).2.append silent
  cases made : Announcement.make db repository blob release with
  | error failure =>
    rw [made] at announced
    have unnamed := make_eq_error_iff.mp made
    have upTo := @reconcile_runs_of_correct repository _ _ _ _ steady _ _ _ read _ described _ _
      (correct_runs_of_unnamed repository asset unnamed)
    exact ⟨_, _, _, .unreadable announced fun faithful =>
        (quiet (silent_empty.append silent_empty) faithful).reports,
      upTo fun committed => throws_runs (not_stays_of_unnamed unnamed) _ _⟩
  | ok announcement =>
    rw [made] at announced
    obtain ⟨rfl, rfl⟩ := make_eq_ok_iff.mp made
    obtain ⟨result, after, events, correction, silent, run⟩ :=
      correct_runs repository asset announcement steady db
    have upTo :=
      @reconcile_runs_of_correct repository _ _ _ _ steady _ _ _ read _ described _ _ run
    cases correction with
    | agreeing usable agrees =>
      exact ⟨_, _, _, .agreeing announced usable agrees fun faithful =>
          (quiet (silent.append silent_empty) faithful).reports,
        upTo fun committed => Work.runs_pure false _⟩
    | unreadable usable absent =>
      exact ⟨_, _, _, .agreeing announced usable (agrees_of_absent absent) fun faithful =>
          (quiet (silent.append (silent_singleton rfl rfl)) faithful).reports,
        upTo fun committed => .bind_silent (Work.runs_report _ _) (Work.runs_pure false _)⟩
    | @mended old stored revision usable found differs permitted =>
      refine ⟨_, _, _, .mended announced usable found differs (fun faithful => ?_) permitted,
        upTo fun committed => .bind_silent (Work.runs_report _ _) (Work.runs_pure true _)⟩
      rw [← Array.append_assoc, announcement.named]
      exact (quiet silent faithful).reports_repaired ..
    | failed refused =>
      exact ⟨_, _, _, .failed announced refused fun faithful =>
          (quiet (silent.append silent_empty) faithful).reports,
        upTo fun committed => throws_runs refused.not_stays _ _⟩

/-- The work on an asset whose blob was found is a visit. -/
theorem reconcile_runs {ref : String} (checked : asset.checkedBlob? = some ref)
    (found : findBlob db plan.files ref = .ok (some blob)) :
    ∃ result after events, Visit plan repository asset db result after events ∧
      ∀ committed, Work.Runs (reconcile databaseRoots plan.reader repository asset blob)
        ⟨committed, some db⟩ result ⟨committed, some after⟩ events := by
  have steady := steady_of_findBlob found
  have announced : plan.announcement? db repository asset =
      match plan.reader (blob.opening 0) with
      | .error failure => .error failure
      | .ok (manifest, _) =>
        match releaseOf repository asset blob manifest with
        | .error failure => .error failure
        | .ok release => (Announcement.make db repository blob release).map some := by
    rw [Plan.announcement?, checked]
    dsimp only
    rw [found]
  cases read : plan.reader (blob.opening 0) with
  | error failure =>
    rw [read] at announced
    exact ⟨_, _, _, .unreadable announced fun _ => silent_empty.reports, fun committed =>
      .silent_bind (Work.runs_openBlob steady _) (.bind_error (Work.runs_ofExcept read _))⟩
  | ok given =>
    obtain ⟨manifest, told⟩ := given
    rw [read] at announced
    dsimp only at announced
    cases described : releaseOf repository asset blob manifest with
    | error failure =>
      rw [described] at announced
      exact ⟨_, _, _, .unreadable announced fun faithful => (faithful _ _ _ read).2.reports,
        fun committed => .silent_bind (Work.runs_openBlob steady _)
          (.silent_bind (Work.runs_ofExcept read _) (.bind_silent (Work.runs_forM_report told _)
            (.bind_error (Work.runs_ofExcept described _))))⟩
    | ok release =>
      rw [described] at announced
      exact release_runs plan repository asset db steady read described announced

end Reconcile

/-- A visit, and that the work on the asset makes it in every transaction. -/
structure Visited (plan : Plan) (repository : String) (asset : Asset) (db : Database)
    (result : Except Failure Bool) (after : Database) (events : Array Event) : Prop where
  visit : Visit plan repository asset db result after events
  runs : ∀ committed, Work.Runs (processAsset plan repository asset)
    ⟨committed, some db⟩ result ⟨committed, some after⟩ events

/-- The work on an asset is a visit. -/
theorem exists_visited (plan : Plan) (repository : String) (asset : Asset) (db : Database) :
    ∃ result after events, Visited plan repository asset db result after events := by
  suffices whole : ∃ result after events, Visit plan repository asset db result after events ∧
      ∀ committed, Work.Runs (processAsset plan repository asset)
        ⟨committed, some db⟩ result ⟨committed, some after⟩ events by
    obtain ⟨result, after, events, visit, runs⟩ := whole
    exact ⟨result, after, events, visit, runs⟩
  unfold processAsset
  cases checked : asset.checkedBlob? with
  | none =>
    have announced : plan.announcement? db repository asset = .ok none := by
      rw [Plan.announcement?, checked]
    exact ⟨_, _, _, .silent announced fun _ => silent_empty.reports, fun committed =>
      Work.runs_pure false _⟩
  | some ref =>
    have find (committed : Database) {result : Except Failure (Option Blob)}
        (found : findBlob db plan.files ref = result) :
        Work.Runs (Work.ofExcept (findBlob (UnitOfWork.current ⟨committed, some db⟩) plan.files ref))
          (⟨committed, some db⟩ : UnitOfWork) result ⟨committed, some db⟩ #[] :=
      Work.runs_ofExcept found _
    cases found : findBlob db plan.files ref with
    | error failure =>
      have announced : plan.announcement? db repository asset = .error failure := by
        rw [Plan.announcement?, checked]
        dsimp only
        rw [found]
      exact ⟨_, _, _, .unreadable announced fun _ => silent_empty.reports, fun committed =>
        .silent_bind (Work.runs_store _) (.bind_error (find committed found))⟩
    | ok found_ =>
      cases found_ with
      | none =>
        have announced : plan.announcement? db repository asset = .ok none := by
          rw [Plan.announcement?, checked]
          dsimp only
          rw [found]
        exact ⟨_, _, _, .silent announced fun _ => (silent_singleton rfl rfl).reports,
          fun committed => .silent_bind (Work.runs_store _) (.silent_bind (find committed found)
            (.bind_silent (Work.runs_report _ _) (Work.runs_pure false _)))⟩
      | some blob =>
        obtain ⟨result, after, events, visit, run⟩ :=
          reconcile_runs plan repository asset db checked found
        exact ⟨result, after, events, visit, fun committed =>
          .silent_bind (Work.runs_store _) (.silent_bind (find committed found) (run committed))⟩

end RegistryMend.Repair
