import RegistryMend.Proofs.Repair.Paging

/-! # A repair reaches every announced version

When the repair of a repository ends, every document that was there before has for every announced
version the checksum that the last of the announcing assets recorded. What the document held
otherwise does not matter, and later corrections of other versions do not undo it.
-/

namespace RegistryMend.Repair

open RegistryMend.Package (Root)
open RegistryMend.Storage (AssetRow Database RootKey)

/-- An asset of a repository announces a version of a package, and its blob is recorded with a
checksum. -/
def Plan.Announces (plan : Plan) (db : Database) (repository : String) (packageId version : WideText)
    (sha1 : String) (asset : Asset) : Prop :=
  Holds db repository asset ∧ ∃ announcement,
    plan.announcement? db repository asset = .ok (some announcement) ∧
      announcement.release.id.text = packageId ∧ announcement.release.version = version ∧
        announcement.blob.sha1 = sha1

/-- What a row announces: a package, its version and the checksum. -/
def Plan.announced? (plan : Plan) (db : Database) (repository : String) (row : AssetRow) :
    Option (WideText × WideText × String) :=
  match Asset.ofRow row with
  | .error _ => none
  | .ok asset =>
    match plan.announcement? db repository asset with
    | .ok (some announcement) => some (announcement.release.id.text, announcement.release.version,
        announcement.blob.sha1)
    | _ => none

section

variable {plan : Plan} {repository : String} {db after : Database} {assets : List Asset}

theorem announced?_eq_some_iff {row : AssetRow} {told : WideText × WideText × String} :
    plan.announced? db repository row = some told ↔ ∃ asset announcement,
      Asset.ofRow row = .ok asset ∧
        plan.announcement? db repository asset = .ok (some announcement) ∧
        told = (announcement.release.id.text, announcement.release.version,
          announcement.blob.sha1) := by
  rw [Plan.announced?]
  constructor
  · intro found
    split at found
    · cases found
    · next asset read =>
      split at found
      · next announcement announced =>
        cases found
        exact ⟨asset, announcement, read, announced, rfl⟩
      · cases found
  · rintro ⟨asset, announcement, read, announced, rfl⟩
    rw [read]
    dsimp only
    rw [announced]

/-- Which assets announce a version can be told from their rows. -/
theorem announces_iff {packageId version : WideText} {sha1 : String} {asset : Asset} :
    plan.Announces db repository packageId version sha1 asset ↔
      ∃ row ∈ db.assets.rows, row.repository = repository ∧ Asset.ofRow row = .ok asset ∧
        plan.announced? db repository row = some (packageId, version, sha1) := by
  constructor
  · rintro ⟨⟨row, member, same, read⟩, announcement, announced, rfl, rfl, rfl⟩
    refine ⟨row, member, same, read, ?_⟩
    exact announced?_eq_some_iff.mpr ⟨asset, announcement, read, announced, rfl⟩
  · rintro ⟨row, member, same, read, told⟩
    obtain ⟨_, announcement, read_, announced, given⟩ := announced?_eq_some_iff.mp told
    cases read.symm.trans read_
    simp only [Prod.mk.injEq] at given
    exact ⟨⟨row, member, same, read⟩, announcement, announced, given.1.symm, given.2.1.symm,
      given.2.2.symm⟩

theorem mem_assetsOf (read : assetsOf db repository = .ok assets) {asset : Asset} :
    asset ∈ assets ↔ Holds db repository asset := by
  rw [assetsOf] at read
  split at read
  · cases read
  · rw [mem_of_assetsOfRows read, Holds]
    constructor
    · rintro ⟨row, member, found⟩
      rw [List.mem_filter, decide_eq_true_eq] at member
      exact ⟨row, member.1, member.2, found⟩
    · rintro ⟨row, member, same, found⟩
      exact ⟨row, List.mem_filter.mpr ⟨member, decide_eq_true same⟩, found⟩

/-- Visits leave what an asset announces, unless an asset behind it announces something else for the
same version. -/
theorem Visits.agrees_after_last (faithful : ManifestReader.Faithful plan.reader)
    {before behind : List Asset} {asset : Asset} {repaired : Nat} {told : Array Event}
    (visits : Visits plan repository (before ++ asset :: behind) db (.ok repaired) after told)
    {announcement : Announcement}
    (announced : plan.announcement? db repository asset = .ok (some announcement))
    (last : ∀ other ∈ behind, ∀ later,
      plan.announcement? db repository other = .ok (some later) →
        later.key repository = announcement.key repository →
          later.release.version ≠ announcement.release.version) :
    announcement.Agrees repository after := by
  obtain ⟨_, middle, _, _, _, first, later⟩ := visits.split
  obtain ⟨roots, rfl⟩ := first.frame
  generalize given : (Except.ok _ : Except Failure Nat) = result at later
  cases later with
  | stop failed => cases given
  | next visited rest =>
    have agrees := visited.visit.agrees_after faithful announced
    obtain ⟨roots_, rfl⟩ := visited.visit.frame
    exact rest.keeps_agreement faithful agrees fun other member announcement_ announced_ key version =>
      absurd version (last other member announcement_ announced_ key)

end

/-- After a repair a document has the checksum of the last asset that announces the version. -/
theorem repairRepository_completes {plan : Plan} (tarballs : plan.reader = tarballReader)
    (positive : 1 ≤ plan.batchSize) {repository : String} {session : Session Database}
    (numbered : ∀ row ∈ session.store.assets.rows, row.repository = repository → 0 ≤ row.id)
    {tally : Tally} (completed : ((repairRepository plan repository).runIn session).1 = .ok tally)
    {packageId : String} {version : WideText} {sha1 : String}
    (present : (session.store.document? (repository, packageId)).isSome)
    {asset : Asset}
    (announces : plan.Announces session.store repository ↑packageId version sha1 asset)
    (last : ∀ other sha1_, plan.Announces session.store repository ↑packageId version sha1_ other →
      other.id ≤ asset.id) :
    ∃ root, ((repairRepository plan repository).runIn session).2.store.document?
        (repository, packageId) = some root ∧
      Root.distText? version Root.shasumKey root = some ↑sha1 := by
  have faithful : ManifestReader.Faithful plan.reader := tarballs ▸ tarballReader_faithful
  obtain ⟨events, assets, repaired, told, walk, -⟩ :=
    repairRepository_walk faithful positive completed
  have read := (assetsOf_eq numbered).trans walk.read
  obtain ⟨held, announcement, announced, named, rfl, rfl⟩ := announces
  obtain rfl : announcement.packageId = packageId :=
    WideText.ofString_injective (announcement.named.symm.trans named)
  obtain ⟨before, behind, rfl⟩ := List.append_of_mem ((mem_assetsOf read).mpr held)
  have visits := walk.visits
  obtain ⟨root, found⟩ := Option.isSome_iff_exists.mp (visits.keeps_document faithful present)
  refine ⟨root, found, visits.agrees_after_last faithful announced ?_ root found⟩
  intro other member later announced_ key version_
  -- The assets behind have larger ids, but this one is the last that announces the version.
  have behind_ : asset.id < other.id := by
    have increasing := ids_assetsOf read
    rw [List.pairwise_map, List.pairwise_append, List.pairwise_cons] at increasing
    exact increasing.2.1.1 other member
  have held_ : Holds session.store repository other := by
    apply (mem_assetsOf read).mp
    simp [member]
  have order := last other later.blob.sha1
    ⟨held_, later, announced_, (Announcement.key_eq_iff.mp key).trans named, version_, rfl⟩
  omega

/-- The tarball announces the version, and no other asset does. -/
theorem repairRepository_completes_stale :
    ∃ asset, stalePlan.Announces staleDatabase "r" "a" "1" "new" asset ∧
      ∃ root, ((repairRepository stalePlan "r").runIn staleSession).2.store.document? ("r", "a") =
          some root ∧ Root.distText? "1" Root.shasumKey root = some ↑"new" := by
  have completed : ((repairRepository stalePlan "r").runIn staleSession).1 = .ok ⟨2, 2, 1⟩ := by
    decide +kernel
  have numbered : ∀ row ∈ staleSession.store.assets.rows, row.repository = "r" → 0 ≤ row.id := by
    decide
  have present : (staleSession.store.document? ("r", "a")).isSome := by decide +kernel
  have first : ∃ row ∈ staleDatabase.assets.rows, row.repository = "r" ∧
      row.id = 1 ∧
        stalePlan.announced? staleDatabase "r" row = some (.ofString "a", .ofString "1", "new") := by
    decide +kernel
  have others : ∀ row ∈ staleDatabase.assets.rows, row.repository = "r" →
      (stalePlan.announced? staleDatabase "r" row).isSome → row.id ≤ 1 := by
    decide +kernel
  obtain ⟨row, member, same, one, announced⟩ := first
  cases read : Asset.ofRow row with
  | error failure =>
    rw [Plan.announced?, read] at announced
    cases announced
  | ok asset =>
    have announces : stalePlan.Announces staleDatabase "r" "a" "1" "new" asset :=
      announces_iff.mpr ⟨row, member, same, read, announced⟩
    refine ⟨asset, announces, repairRepository_completes rfl (by decide) numbered completed present
      announces ?_⟩
    intro other sha1 announces_
    obtain ⟨row_, member_, same_, read_, announced_⟩ := announces_iff.mp announces_
    rw [id_of_ofRow read, id_of_ofRow read_, one]
    exact others row_ member_ same_ (Option.isSome_iff_exists.mpr ⟨_, announced_⟩)

end RegistryMend.Repair
