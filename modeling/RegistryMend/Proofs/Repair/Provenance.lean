import RegistryMend.Proofs.Repair.Hashing
import RegistryMend.Proofs.Repair.Visit

/-! # Where the integrity in a written root comes from

The integrity of a version is hashed anew from the content of the blob if the stored root announces
one, in the announced family and under the announced tag. Otherwise it is what the merge makes of it:
what was stored, with what the manifest reports laid over it.
-/

namespace RegistryMend.Repair

open RegistryMend.Archive (asciiBytes)
open RegistryMend.Json (Members Value)
open RegistryMend.Package (Id Root)
open RegistryMend.Storage (Blob Bytes Opening RootStore Stream)

/-! ## Integrity -/

/-- The integrity that replaces an announced one, given what reading the content gives: the tag up to
the first hyphen and the digest of its family. It is empty if the content cannot be read. -/
def renewedIntegrity (announced : WideText) : Except FileFault Bytes → WideText
  | .error _ => ""
  | .ok content =>
    let tag : WideText := .ofCodes (announced.codes.takeWhile (· ≠ .char '-'))
    let digest :=
      if tag.trim.plain?.map Text.lowerCase = some "sha1" then Digest.sha1.digest content
      else Digest.sha512.digest content
    tag ++ "-" ++ Text.base64 digest

/-- What a merge makes of a stored value, given the one that a manifest reports. -/
def mergedValue (stored : Option Value) : Option Value → Option Value
  | none => stored
  | some reported => some (Package.overlayValue stored reported)

/-- The integrity in a written root, given the stored one, the one that the manifest reports, and
what reading the content gives. -/
def writtenIntegrity (stored reported : Option Value) (content : Except FileFault Bytes) :
    Option Value :=
  match stored.bind Value.string? with
  | none => mergedValue stored reported
  | some announced =>
    if announced = "" then mergedValue stored reported
    else some (.str (renewedIntegrity announced content))

theorem hashedIntegrity_integrityTag (announced : WideText) (content : Except FileFault Bytes) :
    hashedIntegrity (Digest.integrityTag announced) content = renewedIntegrity announced content := by
  cases content with
  | error fault => rfl
  | ok content =>
    rw [hashedIntegrity, Digest.Algorithm.ofTag, apply_ite (Digest.Algorithm.digest · content)]
    rfl

/-! ## Written roots -/

/-- The root with the integrity of a version hashed anew, if the stored root announces one. -/
def renewedRoot (version : WideText) (content : Except FileFault Bytes) (stored merged : Root) : Root :=
  match Root.distText? version Root.integrityKey stored with
  | none => merged
  | some announced =>
    if announced = "" then merged
    else Root.updateDist version
      (Members.insert Root.integrityKey (.str (renewedIntegrity announced content))) merged

section

variable {manifest : Members} {id : Id} {version : WideText} {repository sha1 : String}

/-- The entry of a version reports the integrity that its manifest reports. -/
theorem find?_integrity_entryDist :
    (Package.entryDist manifest id version repository sha1).find? Root.integrityKey =
      (manifest.child Root.distKey).find? Root.integrityKey := by
  rw [Package.entryDist, Package.versionEntry, Members.child_updateChild_self, Members.find?,
    Assoc.lookup_insert_of_ne (by decide), Assoc.lookup_insert_of_ne (by decide), Members.child,
    Members.find?, Assoc.lookup_insert_of_ne (by decide)]
  rfl

theorem find?_integrity_merge (storable : manifest.Storable) (stored : Root) :
    (Root.dist version (Package.merge stored
        (Package.fragmentFor manifest id version repository sha1))).find? Root.integrityKey =
      mergedValue ((Root.dist version stored).find? Root.integrityKey)
        ((manifest.child Root.distKey).find? Root.integrityKey) := by
  rw [Package.dist_merge_self storable,
    Package.find?_overlay (Package.distinct_entryDist storable), find?_integrity_entryDist]
  cases (manifest.child Root.distKey).find? Root.integrityKey <;> rfl

/-- The integrity that is written depends on what was stored alone, unless the manifest reports
one. -/
theorem find?_integrity_renewedRoot (storable : manifest.Storable)
    (content : Except FileFault Bytes) (stored : Root) :
    (Root.dist version (renewedRoot version content stored (Package.merge stored
        (Package.fragmentFor manifest id version repository sha1)))).find? Root.integrityKey =
      writtenIntegrity ((Root.dist version stored).find? Root.integrityKey)
        ((manifest.child Root.distKey).find? Root.integrityKey) content := by
  have merged := @find?_integrity_merge manifest id version repository sha1 storable stored
  rw [renewedRoot, writtenIntegrity, Root.distText?]
  split
  · exact merged
  · split
    · exact merged
    · rw [Root.dist_updateDist_self, Members.find?, Members.insert, Assoc.lookup_insert_self]

/-- Nothing that is written is about the tarball of another version. -/
theorem dist_renewedRoot_of_ne {other : WideText} (differ : other ≠ version)
    (content : Except FileFault Bytes) (stored : Root) :
    Root.dist other (renewedRoot version content stored (Package.merge stored
      (Package.fragmentFor manifest id version repository sha1))) = Root.dist other stored := by
  rw [renewedRoot]
  split
  · exact Package.dist_merge_of_ne differ stored
  · split
    · exact Package.dist_merge_of_ne differ stored
    · rw [Package.dist_updateDist_of_ne differ, Package.dist_merge_of_ne differ]

end

/-! ## Corrections -/

section

variable {σ : Type}

/-- The session after a blob was hashed if the stored root announces an integrity. -/
def hashedFor (asset : String) (blob : Blob) (version : WideText) (stored : Root)
    (session : Session σ) : Session σ :=
  match Root.distText? version Root.integrityKey stored with
  | none => session
  | some announced => if announced = "" then session else rehashed asset blob session

@[simp] theorem store_hashedFor (asset : String) (blob : Blob) (version : WideText) (stored : Root)
    (session : Session σ) : (hashedFor asset blob version stored session).store = session.store := by
  rw [hashedFor]
  split
  · rfl
  · split <;> rfl

theorem runIn_withIntegrity (asset : Asset) (blob : Blob) (version : WideText)
    (stored merged : Root) (session : Session σ) :
    (withIntegrity asset blob version stored merged).runIn session =
      (.ok (renewedRoot version (blob.contentAt session.openings) stored merged),
        hashedFor asset.name blob version stored session) := by
  rw [withIntegrity, renewedRoot, hashedFor]
  cases Root.distText? version Root.integrityKey stored with
  | none => rfl
  | some announced =>
    dsimp only
    split
    · rfl
    · rw [Work.runIn_bind, runIn_recalculate, hashedIntegrity_integrityTag]
      rfl

/-- The stored root of a release that is to be corrected. -/
def Due (roots : RootStore σ) (repository : String) (blob : Blob) (release : Release) (store : σ)
    (stored : Root) : Prop :=
  roots.get repository release.id store = .ok (some stored) ∧
    Root.distText? release.version Root.shasumKey stored ≠ some ↑blob.sha1

/-- The document that is written for a release, given what the blob gives when it is hashed. -/
def Release.correctedRoot (release : Release) (content : Except FileFault Bytes) (stored : Root) :
    Root :=
  renewedRoot release.version content stored (Package.merge stored release.fragment)

/-- The session after a manifest was read. -/
def Session.reading (session : Session σ) (told : List Event) : Session σ :=
  { session with
    events := session.events ++ told.toArray
    openings := session.openings + 1 }

/-- The session after one more event was reported. -/
def Session.reporting (session : Session σ) (event : Event) : Session σ :=
  { session with events := session.events.push event }

/-- What the work on an asset comes to, given what the correction of the root did. -/
def concluded (repository : String) (asset : Asset) (blob : Blob) (release : Release) :
    Except Failure (Option (Option WideText)) × Session σ → Except Failure Bool × Session σ
  | (.ok none, after) => (.ok false, after)
  | (.ok (some old), after) => (.ok true, after.reporting
      (.rootRepaired repository release.id.text release.version old blob.sha1))
  | (.error failure, after) =>
    if staysWithAsset failure then (.ok false, after.reporting (.updateFailed asset.name failure))
    else (.error failure, after)

variable (roots : RootStore σ) (repository : String) (asset : Asset) (blob : Blob)
variable {release : Release} {session : Session σ} {stored : Root}

/-- A correction that is due comes to what the write comes to. -/
theorem runIn_correct_of_due (session : Session σ)
    (due : Due roots repository blob release session.store stored) :
    (correct roots repository asset blob release).runIn session =
      match roots.put repository release.id none
        (release.correctedRoot (blob.contentAt session.openings) stored) session.store with
      | .error failure => (.error failure, hashedFor asset.name blob release.version stored session)
      | .ok after =>
        (.ok (some (Root.distText? release.version Root.shasumKey stored)),
          { hashedFor asset.name blob release.version stored session with store := after }) := by
  obtain ⟨got, differs⟩ := due
  rw [correct, Work.runIn_bind, Work.runIn_store]
  dsimp only
  rw [Work.runIn_bind, Work.runIn_ofExcept, got]
  dsimp only
  rw [if_neg differs, Work.runIn_bind, runIn_withIntegrity]
  dsimp only
  rw [Work.runIn_bind, Work.runIn_store]
  dsimp only
  rw [Work.runIn_bind, Work.runIn_ofExcept, store_hashedFor, Release.correctedRoot]
  cases roots.put repository release.id none (renewedRoot release.version
    (blob.contentAt session.openings) stored (Package.merge stored release.fragment))
      session.store <;> rfl

/-- Where nothing is due nothing is written. -/
theorem runIn_correct_of_not_due (session : Session σ)
    (idle : ∀ stored, ¬Due roots repository blob release session.store stored) :
    (correct roots repository asset blob release).runIn session =
      ((roots.get repository release.id session.store).map fun _ => none, session) := by
  rw [correct, Work.runIn_bind, Work.runIn_store]
  dsimp only
  rw [Work.runIn_bind, Work.runIn_ofExcept]
  cases got : roots.get repository release.id session.store with
  | error failure => rfl
  | ok found =>
    cases found with
    | none => rfl
    | some stored =>
      have agrees : Root.distText? release.version Root.shasumKey stored = some ↑blob.sha1 := by
        apply Decidable.of_not_not
        exact fun differs => idle stored ⟨got, differs⟩
      dsimp only
      rw [if_pos agrees]
      rfl

variable {reader : ManifestReader} {manifest : Members} {told : List Event}

/-- Once the manifest was read, the work on an asset is the correction of the root that it
describes. If it describes no release that is a failure, and the store is not asked. -/
theorem runIn_reconcile_of_read
    (read : reader (blob.opening session.openings) = .ok (manifest, told)) :
    (reconcile roots reader repository asset blob).runIn session =
      match releaseOf repository asset blob manifest with
      | .error failure => (.error failure, session.reading told)
      | .ok release => concluded repository asset blob release
        ((correct roots repository asset blob release).runIn (session.reading told)) := by
  rw [reconcile, Work.runIn_bind, Work.runIn_openBlob]
  dsimp only
  rw [Work.runIn_bind, Work.runIn_ofExcept, read]
  dsimp only
  rw [Work.runIn_bind, Work.runIn_forM_report]
  dsimp only
  rw [Work.runIn_bind, Work.runIn_ofExcept]
  cases releaseOf repository asset blob manifest with
  | error failure => rfl
  | ok release =>
    dsimp only
    rw [Work.runIn_bind, Work.runIn_attempt]
    change _ = concluded repository asset blob release
      ((correct roots repository asset blob release).runIn ⟨session.store, _, _⟩)
    generalize (correct roots repository asset blob release).runIn _ = run
    obtain ⟨result, after⟩ := run
    match result with
    | .ok none => rfl
    | .ok (some old) => rfl
    | .error failure =>
      rw [concluded]
      dsimp only
      split <;> rfl

/-- After a failure no root was corrected. -/
theorem concluded_error (release : Release) (failure : Failure) (after : Session σ) :
    (concluded repository asset blob release (.error failure, after)).1 ≠ .ok true ∧
      (concluded repository asset blob release (.error failure, after)).2.store = after.store := by
  rw [concluded]
  split
  · exact ⟨fun ended => (nomatch ended), rfl⟩
  · exact ⟨fun ended => (nomatch ended), rfl⟩

/-- The work on an asset writes the corrected root and says so, or it writes nothing. -/
theorem reconcile_seen (roots : RootStore σ) (reader : ManifestReader) (repository : String)
    (asset : Asset) (blob : Blob) (session : Session σ) :
    let run := (reconcile roots reader repository asset blob).runIn session
    (run.1 ≠ .ok true ∧ run.2.store = session.store) ∨
      run.1 = .ok true ∧ ∃ manifest told release stored,
        reader (blob.opening session.openings) = .ok (manifest, told) ∧
        releaseOf repository asset blob manifest = .ok release ∧
        roots.get repository release.id session.store = .ok (some stored) ∧
        roots.put repository release.id none
          (release.correctedRoot (blob.contentAt (session.openings + 1)) stored) session.store =
            .ok run.2.store := by
  dsimp only
  cases read : reader (blob.opening session.openings) with
  | error failure =>
    rw [reconcile, Work.runIn_bind, Work.runIn_openBlob]
    dsimp only
    rw [Work.runIn_bind, Work.runIn_ofExcept, read]
    exact .inl ⟨fun ended => (nomatch ended), rfl⟩
  | ok given =>
    obtain ⟨manifest, told⟩ := given
    cases described : releaseOf repository asset blob manifest with
    | error failure =>
      rw [runIn_reconcile_of_read roots repository asset blob read, described]
      exact .inl ⟨fun ended => (nomatch ended), rfl⟩
    | ok release =>
      rw [runIn_reconcile_of_read roots repository asset blob read, described]
      dsimp only
      by_cases due : ∃ stored, Due roots repository blob release session.store stored
      · obtain ⟨stored, due⟩ := due
        rw [runIn_correct_of_due roots repository asset blob (session.reading told) due]
        cases put : roots.put repository release.id none (release.correctedRoot
          (blob.contentAt (session.openings + 1)) stored) session.store with
        | error failure =>
          obtain ⟨unwritten, same⟩ := concluded_error repository asset blob release
            failure (hashedFor asset.name blob release.version stored (session.reading told))
          refine .inl ?_
          simp only [Session.reading, put] at unwritten same ⊢
          exact ⟨unwritten, same.trans (store_hashedFor ..)⟩
        | ok after =>
          simp only [Session.reading, put]
          exact .inr ⟨rfl, manifest, told, release, stored, rfl, described, due.1, put⟩
      · rw [runIn_correct_of_not_due roots repository asset blob (session.reading told)
          fun stored due_ => due ⟨stored, due_⟩]
        refine .inl ?_
        cases roots.get repository release.id (session.reading told).store with
        | error failure => exact concluded_error repository asset blob release failure _
        | ok found => exact ⟨fun ended => (nomatch ended), rfl⟩

end

/-! ## Rewrites -/

/-- A root that is written: the manifest in the tarball, the package it names, and the stored root
that is replaced. -/
structure Rewrite where
  manifest : Members
  id : Id
  stored : Root
  written : Root

namespace Rewrite

/-- The version that the tarball is of. -/
def version (rewrite : Rewrite) : WideText :=
  Package.manifestVersion rewrite.manifest

/-- The rewrite that takes a store of package roots from one state to another. -/
structure Made {σ : Type} (rewrite : Rewrite) (roots : RootStore σ) (repository : String)
    (tarball : Opening) (before after : σ) : Prop where
  read : ∃ told, tarballReader tarball = .ok (rewrite.manifest, told)
  named : Id.parse (Package.manifestName rewrite.manifest) = .ok rewrite.id
  got : roots.get repository rewrite.id before = .ok (some rewrite.stored)
  put : roots.put repository rewrite.id none rewrite.written before = .ok after

/-- Where the integrities in the written root come from. Those of other versions are the stored
ones. -/
structure Traced (rewrite : Rewrite) (content : Except FileFault Bytes) : Prop where
  integrity : (Root.dist rewrite.version rewrite.written).find? Root.integrityKey =
    writtenIntegrity ((Root.dist rewrite.version rewrite.stored).find? Root.integrityKey)
      ((rewrite.manifest.child Root.distKey).find? Root.integrityKey) content
  others : ∀ other ≠ rewrite.version,
    Root.dist other rewrite.written = Root.dist other rewrite.stored

end Rewrite

section

variable {manifest : Members} {repository : String} {asset : Asset} {blob : Blob} {release : Release}

theorem releaseOf_names (described : releaseOf repository asset blob manifest = .ok release) :
    Id.parse (Package.manifestName manifest) = .ok release.id ∧
      release.version = Package.manifestVersion manifest := by
  rw [releaseOf] at described
  split at described
  · cases described
  · next id named =>
    cases described
    exact ⟨named, rfl⟩

theorem traced_renewedRoot (described : releaseOf repository asset blob manifest = .ok release)
    (storable : manifest.Storable) (content : Except FileFault Bytes) (stored : Root) :
    Rewrite.Traced ⟨manifest, release.id, stored, renewedRoot release.version content stored
      (Package.merge stored release.fragment)⟩ content := by
  have version := (releaseOf_names described).2
  rw [releaseOf_fragment described, version]
  refine ⟨find?_integrity_renewedRoot storable content stored, fun other differ => ?_⟩
  exact dist_renewedRoot_of_ne differ content stored

end

/-- Every root that is written in place of a stored one has the integrity that the content of the
blob, the stored root and the manifest in the tarball give it. -/
theorem reconcile_integrity {σ : Type} (roots : RootStore σ) (repository : String) (asset : Asset)
    (blob : Blob) (session : Session σ) :
    let run := (reconcile roots tarballReader repository asset blob).runIn session
    (run.1 ≠ .ok true ∧ run.2.store = session.store) ∨
      run.1 = .ok true ∧ ∃ rewrite : Rewrite,
        rewrite.Made roots repository (blob.opening session.openings) session.store run.2.store ∧
        rewrite.Traced (blob.contentAt (session.openings + 1)) := by
  rcases reconcile_seen roots tarballReader repository asset blob session with
    unwritten | ⟨corrected, manifest, told, release, stored, read, described, got, put⟩
  · exact .inl unwritten
  · have storable : manifest.Storable := (tarballReader_faithful _ _ _ read).1
    have named := (releaseOf_names described).1
    exact .inr ⟨corrected, ⟨manifest, release.id, stored, _⟩, ⟨⟨told, read⟩, named, got, put⟩,
      traced_renewedRoot described storable _ stored⟩

/-- A tarball with a manifest that reports an integrity. -/
def reportingTarball : Bytes :=
  [31, 139, 8, 0, 0, 0, 0, 0, 0, 255, 1, 51, 2, 204, 253] ++
    asciiBytes "p/package.json" ++ List.replicate 110 0 ++
    asciiBytes "00000000063" ++ List.replicate 13 0 ++
    asciiBytes "004234" ++ [0, 32] ++ asciiBytes "0" ++ List.replicate 355 0 ++
    asciiBytes "\x7b\"name\":\"a\",\"version\":\"1\",\"dist\":\x7b\"integrity\":\"x\"\x7d\x7d"

/-- A reported integrity is written where the stored root has none. -/
theorem reconcile_writes_reported :
    let memory : Storage.RootMemory := { documents := [("a", "\x7b\x7d")] }
    let asset : Asset := ⟨1, "r", "a-1.tgz", some "b", []⟩
    let blob : Blob := ⟨"b", "new", 578, fun _ => .ok (Stream.ofBytes reportingTarball)⟩
    let run := (reconcile Storage.memoryRoots tarballReader "r" asset blob).runIn ⟨memory, #[], 0⟩
    memory.get "a" = .ok (some []) ∧ run.1 = .ok true ∧
      run.2.store.writes.map (fun write => Root.distText? "1" Root.integrityKey write.document) =
        [some ↑"x"] :=
  ⟨by rfl, by decide +kernel⟩

end RegistryMend.Repair
