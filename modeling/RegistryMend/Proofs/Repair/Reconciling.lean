import RegistryMend.Proofs.Repair.Provenance

/-! # What the work on an asset comes to

The store of package roots is asked for one root, and for one write if that root is there and has
another checksum for the version than the one recorded for the tarball. The write is not guarded, its
document is fixed by the stored root, the manifest and the content of the blob, and the work ends
with a correction exactly if it succeeds. Work that is done again finds nothing to correct.
-/

namespace RegistryMend.Repair

open RegistryMend.Json (Members)
open RegistryMend.Package (Id Root)
open RegistryMend.Storage (Blob RootStore)

/-- The release of a package that a manifest describes. -/
def releaseFor (repository : String) (blob : Blob) (manifest : Members) (id : Id) : Release :=
  ⟨id, Package.manifestVersion manifest, Package.fragmentFor manifest id
    (Package.manifestVersion manifest) repository blob.sha1⟩

/-- The document that the work on an asset writes in place of a stored root. The blob is opened for
its manifest first, and then to be hashed. -/
def Release.documentIn {σ : Type} (release : Release) (blob : Blob) (session : Session σ)
    (stored : Root) : Root :=
  release.correctedRoot (blob.contentAt (session.openings + 1)) stored

/-- What the work on an asset comes to when its manifest describes a release. -/
structure Reconciliation {σ : Type} (roots : RootStore σ) (reader : ManifestReader)
    (repository : String) (asset : Asset) (blob : Blob) (manifest : Members) (release : Release)
    (told : List Event) (session : Session σ) : Prop where
  /-- No write is attempted unless a root is due: it does not matter what a write would do. -/
  unasked : (∀ stored, ¬Due roots repository blob release session.store stored) → ∀ put,
    (reconcile { roots with put } reader repository asset blob).runIn session =
      (reconcile roots reader repository asset blob).runIn session
  /-- A root that is absent or agrees is left alone. -/
  agreeing : (∀ stored, ¬Due roots repository blob release session.store stored) →
    ∀ found, roots.get repository release.id session.store = .ok found →
      (reconcile roots reader repository asset blob).runIn session =
        (.ok false, session.reading told)
  /-- Otherwise one unguarded write is attempted: it does not matter what any other would do. -/
  asked : ∀ stored, Due roots repository blob release session.store stored → ∀ put,
    put repository release.id none (release.documentIn blob session stored) session.store =
        roots.put repository release.id none (release.documentIn blob session stored)
          session.store →
      (reconcile { roots with put } reader repository asset blob).runIn session =
        (reconcile roots reader repository asset blob).runIn session
  checksum : ∀ stored, Root.distText? release.version Root.shasumKey
    (release.documentIn blob session stored) = some ↑blob.sha1
  /-- A root was corrected exactly if that write succeeded. -/
  corrected : ((reconcile roots reader repository asset blob).runIn session).1 = .ok true ↔
    ∃ stored after, Due roots repository blob release session.store stored ∧
      roots.put repository release.id none (release.documentIn blob session stored)
        session.store = .ok after
  written : ∀ stored after, Due roots repository blob release session.store stored →
    roots.put repository release.id none (release.documentIn blob session stored)
        session.store = .ok after →
      ((reconcile roots reader repository asset blob).runIn session).2.store = after
  /-- A failure that stays with the asset is reported once, and the store is as it was. -/
  failed : ∀ failure, staysWithAsset failure = true →
    (roots.get repository release.id session.store = .error failure ∨
      ∃ stored, Due roots repository blob release session.store stored ∧
        roots.put repository release.id none (release.documentIn blob session stored)
          session.store = .error failure) →
    let run := (reconcile roots reader repository asset blob).runIn session
    run.1 = .ok false ∧ run.2.store = session.store ∧ ∃ hashing : Array Event,
      (∀ event ∈ hashing, ∃ fault, event = .hashFailed asset.name (.file fault)) ∧
      run.2.events = (session.events ++ told.toArray ++ hashing).push
        (.updateFailed asset.name failure)
  /-- Nothing is due any more where the store gives the written checksum back. -/
  again : ∀ stored, Due roots repository blob release session.store stored →
    ((reconcile roots reader repository asset blob).runIn session).1 = .ok true →
    ∀ (later : Session σ) kept told_,
      roots.get repository release.id later.store = .ok (some kept) →
      Root.distText? release.version Root.shasumKey kept =
        Root.distText? release.version Root.shasumKey (release.documentIn blob session stored) →
      reader (blob.opening later.openings) = .ok (manifest, told_) → ∀ put,
        (reconcile { roots with put } reader repository asset blob).runIn later =
          (.ok false, later.reading told_)

theorem hashReports_failed {asset : String} {content : Except FileFault Storage.Bytes}
    {event : Event} (member : event ∈ hashReports asset content) :
    ∃ fault, event = .hashFailed asset (.file fault) := by
  cases content with
  | ok bytes => simp [hashReports] at member
  | error fault => exact ⟨fault, by simpa [hashReports] using member⟩

section

variable {σ : Type} {roots : RootStore σ} {reader : ManifestReader} {repository : String}
  {asset : Asset} {blob : Blob} {manifest : Members} {told : List Event} {session : Session σ}
  {release : Release} {id : Id} {stored : Root}

theorem releaseOf_of_parse (named : Id.parse (Package.manifestName manifest) = .ok id) :
    releaseOf repository asset blob manifest = .ok (releaseFor repository blob manifest id) := by
  rw [releaseOf, named]
  rfl

/-- Hashing reports nothing but that it failed. -/
theorem events_hashedFor (asset : String) (blob : Blob) (version : WideText) (stored : Root)
    (session : Session σ) : ∃ hashing : Array Event,
      (∀ event ∈ hashing, ∃ fault, event = .hashFailed asset (.file fault)) ∧
        (hashedFor asset blob version stored session).events = session.events ++ hashing := by
  have nothing : ∀ event ∈ (#[] : Array Event), ∃ fault, event = .hashFailed asset (.file fault) :=
    fun event member => absurd member (Array.not_mem_empty event)
  rw [hashedFor]
  split
  · exact ⟨#[], nothing, (Array.append_empty ..).symm⟩
  · split
    · exact ⟨#[], nothing, (Array.append_empty ..).symm⟩
    · exact ⟨_, fun event => hashReports_failed, rfl⟩

/-- The root that is written has the recorded checksum. -/
theorem distText?_correctedRoot (repository : String) (blob : Blob) (id : Id)
    (storable : manifest.Storable) (content : Except FileFault _) (stored : Root) :
    Root.distText? (releaseFor repository blob manifest id).version Root.shasumKey
      ((releaseFor repository blob manifest id).correctedRoot content stored) = some ↑blob.sha1 := by
  have merged := @Package.distText?_merge_self manifest id (Package.manifestVersion manifest)
    repository blob.sha1 storable stored
  rw [Release.correctedRoot, renewedRoot]
  split
  · exact merged
  · split
    · exact merged
    · rw [Package.distText?_updateDist_insert_of_ne (by decide)]
      exact merged

/-- Where a root is due the work comes to what the write comes to. -/
theorem runIn_reconcile_of_due (roots : RootStore σ)
    (read : reader (blob.opening session.openings) = .ok (manifest, told))
    (described : releaseOf repository asset blob manifest = .ok release)
    (due : Due roots repository blob release session.store stored) :
    (reconcile roots reader repository asset blob).runIn session =
      concluded repository asset blob release
        (match roots.put repository release.id none (release.documentIn blob session stored)
          session.store with
        | .error failure => (.error failure,
          hashedFor asset.name blob release.version stored (session.reading told))
        | .ok after => (.ok (some (Root.distText? release.version Root.shasumKey stored)),
          { hashedFor asset.name blob release.version stored (session.reading told) with
            store := after })) := by
  rw [runIn_reconcile_of_read roots repository asset blob read, described]
  dsimp only
  rw [runIn_correct_of_due roots repository asset blob (session.reading told) due]
  rfl

/-- Where none is due it comes to what reading the root comes to. -/
theorem runIn_reconcile_of_not_due (roots : RootStore σ)
    (read : reader (blob.opening session.openings) = .ok (manifest, told))
    (described : releaseOf repository asset blob manifest = .ok release)
    (idle : ∀ stored, ¬Due roots repository blob release session.store stored) :
    (reconcile roots reader repository asset blob).runIn session =
      concluded repository asset blob release
        ((roots.get repository release.id session.store).map fun _ => none,
          session.reading told) := by
  rw [runIn_reconcile_of_read roots repository asset blob read, described]
  dsimp only
  rw [runIn_correct_of_not_due roots repository asset blob (session.reading told) idle]
  rfl

/-- A root was corrected exactly if one was due and the write succeeded. -/
theorem reconcile_corrected_iff
    (read : reader (blob.opening session.openings) = .ok (manifest, told))
    (described : releaseOf repository asset blob manifest = .ok release) :
    ((reconcile roots reader repository asset blob).runIn session).1 = .ok true ↔
      ∃ stored after, Due roots repository blob release session.store stored ∧
        roots.put repository release.id none (release.documentIn blob session stored)
          session.store = .ok after := by
  constructor
  · intro ended
    by_cases due : ∃ stored, Due roots repository blob release session.store stored
    · obtain ⟨stored, due⟩ := due
      rw [runIn_reconcile_of_due roots read described due] at ended
      cases put : roots.put repository release.id none (release.documentIn blob session stored)
          session.store with
      | error failure =>
        rw [put] at ended
        exact absurd ended (concluded_error repository asset blob release failure _).1
      | ok after => exact ⟨stored, after, due, put⟩
    · have idle (stored : Root) : ¬Due roots repository blob release session.store stored :=
        fun due_ => due ⟨stored, due_⟩
      rw [runIn_reconcile_of_not_due roots read described idle] at ended
      cases got : roots.get repository release.id session.store with
      | error failure =>
        rw [got] at ended
        exact absurd ended (concluded_error repository asset blob release failure _).1
      | ok found =>
        rw [got] at ended
        cases ended
  · rintro ⟨stored, after, due, put⟩
    rw [runIn_reconcile_of_due roots read described due, put]
    rfl

/-- A failure that stays with the asset is reported. -/
theorem concluded_of_stays {failure : Failure} (stays : staysWithAsset failure = true)
    (after : Session σ) : concluded repository asset blob release (.error failure, after) =
      (.ok false, after.reporting (.updateFailed asset.name failure)) := by
  rw [concluded, if_pos stays]

/-- A root that cannot be read is a report, and nothing else happens. -/
theorem runIn_reconcile_of_unread {failure : Failure}
    (read : reader (blob.opening session.openings) = .ok (manifest, told))
    (described : releaseOf repository asset blob manifest = .ok release)
    (stays : staysWithAsset failure = true)
    (unread : roots.get repository release.id session.store = .error failure) :
    (reconcile roots reader repository asset blob).runIn session =
      (.ok false, (session.reading told).reporting (.updateFailed asset.name failure)) := by
  have idle (stored : Root) : ¬Due roots repository blob release session.store stored := by
    intro due
    rw [due.1] at unread
    cases unread
  rw [runIn_reconcile_of_not_due roots read described idle, unread, Except.map,
    concluded_of_stays stays]

/-- So is a root that cannot be written, behind what hashing the blob reports. -/
theorem runIn_reconcile_of_unwritten {failure : Failure}
    (read : reader (blob.opening session.openings) = .ok (manifest, told))
    (described : releaseOf repository asset blob manifest = .ok release)
    (stays : staysWithAsset failure = true)
    (due : Due roots repository blob release session.store stored)
    (refused : roots.put repository release.id none (release.documentIn blob session stored)
      session.store = .error failure) :
    (reconcile roots reader repository asset blob).runIn session =
      (.ok false, (hashedFor asset.name blob release.version stored
        (session.reading told)).reporting (.updateFailed asset.name failure)) := by
  rw [runIn_reconcile_of_due roots read described due, refused, concluded_of_stays stays]

/-- A root with the recorded checksum is not due. -/
theorem not_due_of_checksum (roots : RootStore σ) {store : σ} {kept : Root}
    (got : roots.get repository release.id store = .ok (some kept))
    (agrees : Root.distText? release.version Root.shasumKey kept = some ↑blob.sha1)
    (other : Root) : ¬Due roots repository blob release store other := by
  rintro ⟨got_, differs⟩
  have found := got.symm.trans got_
  cases found
  exact differs agrees

/-- What the work on an asset comes to, given the manifest that was read. Whatever the store is, it
is not asked if the manifest names no package. -/
theorem reconcile_outcome (read : reader (blob.opening session.openings) = .ok (manifest, told))
    (storable : manifest.Storable) :
    (∀ problem, Id.parse (Package.manifestName manifest) = .error problem →
      (reconcile roots reader repository asset blob).runIn session =
        (.error (.manifest (.badName problem) (some asset.name)), session.reading told)) ∧
      ∀ id, Id.parse (Package.manifestName manifest) = .ok id →
        Reconciliation roots reader repository asset blob manifest
          (releaseFor repository blob manifest id) told session := by
  refine ⟨fun problem unnamed => ?_, fun id named => ?_⟩
  · have described : releaseOf repository asset blob manifest =
        .error (.manifest (.badName problem) (some asset.name)) := by
      rw [releaseOf, unnamed]
    rw [runIn_reconcile_of_read roots repository asset blob read, described]
  have described : releaseOf repository asset blob manifest =
      .ok (releaseFor repository blob manifest id) := releaseOf_of_parse named
  have checksum := distText?_correctedRoot repository blob id storable
    (blob.contentAt (session.openings + 1))
  constructor
  case unasked =>
    intro idle put
    rw [runIn_reconcile_of_not_due roots read described idle]
    exact runIn_reconcile_of_not_due { roots with put } read described idle
  case agreeing =>
    intro idle found got
    rw [runIn_reconcile_of_not_due roots read described idle, got]
    rfl
  case asked =>
    intro stored due put same
    rw [runIn_reconcile_of_due roots read described due, ← same]
    exact runIn_reconcile_of_due { roots with put } read described due
  case checksum => exact checksum
  case corrected => exact reconcile_corrected_iff read described
  case written =>
    intro stored after due put
    rw [runIn_reconcile_of_due roots read described due, put]
    rfl
  case failed =>
    rintro failure stays (unread | ⟨stored, due, refused⟩)
    · rw [runIn_reconcile_of_unread read described stays unread]
      refine ⟨rfl, rfl, #[], fun event member => absurd member (Array.not_mem_empty event), ?_⟩
      rw [Array.append_empty]
      rfl
    · rw [runIn_reconcile_of_unwritten read described stays due refused]
      obtain ⟨hashing, reports, told_⟩ := events_hashedFor asset.name blob
        (releaseFor repository blob manifest id).version stored (session.reading told)
      exact ⟨rfl, store_hashedFor .., hashing, reports, congrArg (Array.push · _) told_⟩
  case again =>
    intro stored _ _ later kept told_ got same read_ put
    have idle := not_due_of_checksum { roots with put } got (same.trans (checksum stored))
    rw [runIn_reconcile_of_not_due { roots with put } read_ described idle]
    exact congrArg (fun found => concluded repository asset blob
      (releaseFor repository blob manifest id) (found.map fun _ => none, later.reading told_)) got

end

/-- A root with an integrity and another checksum is corrected. -/
theorem reconcile_outcome_stale_root :
    let memory : Storage.RootMemory := { documents := [("a", "\x7b\"versions\":\x7b\"1\":" ++
      "\x7b\"dist\":\x7b\"shasum\":\"old\",\"integrity\":\"sha1-x\"\x7d\x7d\x7d\x7d")] }
    let asset : Asset := ⟨1, "r", "a-1.tgz", some "b", []⟩
    let blob : Blob := ⟨"b", "new", 578, fun _ => .ok (Storage.Stream.ofBytes reportingTarball)⟩
    let session : Session Storage.RootMemory := ⟨memory, #[], 0⟩
    ∃ manifest told id, tarballReader (blob.opening 0) = .ok (manifest, told) ∧
      manifest.Storable ∧ Id.parse (Package.manifestName manifest) = .ok id ∧
      Reconciliation Storage.memoryRoots tarballReader "r" asset blob manifest
        (releaseFor "r" blob manifest id) told session ∧
      ((reconcile Storage.memoryRoots tarballReader "r" asset blob).runIn session).1 = .ok true := by
  intro memory asset blob session
  have named : ((tarballReader (blob.opening 0)).map fun given =>
      Id.parse (Package.manifestName given.1)) =
        .ok (.ok ⟨none, "a", by decide, by decide⟩) := by decide +kernel
  cases read : tarballReader (blob.opening 0) with
  | error failure =>
    rw [read] at named
    cases named
  | ok given =>
    obtain ⟨manifest, told⟩ := given
    rw [read] at named
    have storable := (tarballReader_faithful _ _ _ read).1
    have parsed := Except.ok.inj named
    exact ⟨manifest, told, _, rfl, storable, parsed,
      (reconcile_outcome read storable).2 _ parsed, by decide +kernel⟩

end RegistryMend.Repair
