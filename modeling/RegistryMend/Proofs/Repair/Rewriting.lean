import RegistryMend.Proofs.Package.Versions
import RegistryMend.Proofs.Repair.Visits
import RegistryMend.Proofs.Storage.RoundTrip

/-! # What announcements do to rows

An announcement rewrites the row of its package if the checksum of its version is another one, and
leaves all other rows. Where documents have a tag `latest`, announcements of different versions may
rewrite a row in either order: each writes the entry of its version alone, and decides by it alone.
-/

namespace RegistryMend.Storage

open RegistryMend.Json (Members Value)
open RegistryMend.Package (Renews Root)

/-- The document in a row has a tag `latest` that is a text and not empty, if it can be read. -/
def RootRow.Tagged (row : RootRow) : Prop :=
  ∀ root ∈ row.document?, Root.Tagged root

instance (row : RootRow) : Decidable row.Tagged :=
  inferInstanceAs (Decidable (∀ root ∈ row.document?, Root.Tagged root))

/-- All documents that can be read have a tag `latest` that is a text and not empty. -/
def Database.Tagged (db : Database) : Prop :=
  ∀ row ∈ db.roots.rows, row.Tagged

instance (db : Database) : Decidable db.Tagged :=
  inferInstanceAs (Decidable (∀ row ∈ db.roots.rows, row.Tagged))

theorem latest?_withRevision (revision : String) (root : Root) :
    Root.latest? (withRevision revision root) = Root.latest? root := by
  rw [Root.latest?, Root.latest?, withRevision, Members.find?, Members.insert,
    Assoc.lookup_insert_of_ne (by decide)]

/-- A new revision replaces the old one. -/
theorem nextRow_withRevision (key : RootKey) (revision : Option Int) (old : String) (root : Root) :
    nextRow key revision (withRevision old root) = nextRow key revision root := by
  rw [nextRow, nextRow, withRevision, withRevision, withRevision, Members.insert, Members.insert,
    Assoc.insert_insert_self]

/-- Documents that differ in their revision alone leave the same row. -/
theorem nextRow_of_sameBut {root other : Root} (left : Members.Storable root)
    (right : Members.Storable other) (same : Package.SameBut Root.revisionKey root other)
    (key : RootKey) (revision : Option Int) :
    nextRow key revision root = nextRow key revision other := by
  have matching (text : String) :
      Members.Matches (withRevision text root) (withRevision text other) := by
    refine .ext (storable_withRevision left _) (storable_withRevision right _) fun field =>
      .of_eq ?_
    rw [withRevision, withRevision, Members.find?, Members.find?, Members.insert, Members.insert,
      Assoc.lookup_insert, Assoc.lookup_insert]
    split
    · rfl
    · next apart => exact same field apart
  rw [nextRow, nextRow, (matching _).canonical]

/-- A version is written into a row alike whichever revision the document has. -/
theorem nextRow_writeVersion {entry : Option Value → Value} (renews : Renews entry)
    {document root : Root} {old : String} (storable : Members.Storable root)
    (same : Members.Matches document (withRevision old root)) (name version : WideText)
    (key : RootKey) (revision : Option Int) :
    nextRow key revision (document.writeVersion name version entry) =
      nextRow key revision (root.writeVersion name version entry) := by
  have written : Members.Matches (document.writeVersion name version entry)
      (withRevision old (root.writeVersion name version entry)) :=
    (Package.writeVersion_matches renews same).trans
      (Package.writeVersion_insert renews storable (by decide) (Package.storable_str _))
  rw [nextRow_matches written, nextRow_withRevision]

end RegistryMend.Storage

namespace RegistryMend.Repair

open RegistryMend.Json (Members Value)
open RegistryMend.Package (Renews Root)
open RegistryMend.Storage (Database RootKey RootRow nextRow withRevision)

/-! ## Rewritten rows -/

namespace Announcement

/-- A row is that of the announced package, and its document has another checksum. -/
def Concerns (announcement : Announcement) (repository : String) (row : RootRow) : Prop :=
  row.key = announcement.key repository ∧ ∃ stored ∈ row.document?,
    Root.distText? announcement.release.version Root.shasumKey stored ≠
      some ↑announcement.blob.sha1

instance (announcement : Announcement) (repository : String) (row : RootRow) :
    Decidable (announcement.Concerns repository row) :=
  inferInstanceAs (Decidable (_ ∧ _))

/-- The row that an announcement leaves in the place of a row. -/
def rewritten (announcement : Announcement) (repository : String) (row : RootRow) : RootRow :=
  if announcement.Concerns repository row then
    nextRow row.key row.revision? (announcement.mended (row.document?.getD []))
  else row

/-- What an announcement writes into a tagged root: a new entry for its version. -/
structure Writes (announcement : Announcement) (entry : Option Value → Value) : Prop where
  renews : Renews entry
  mended : ∀ stored : Root, Members.Storable stored → stored.Tagged →
    Members.Matches (announcement.mended stored)
      (stored.writeVersion announcement.release.id.text announcement.release.version entry)

end Announcement

section Rewritten

variable {plan : Plan} {db : Database} {repository : String} {asset other : Asset}
  {first second : Announcement} {row : RootRow}

theorem exists_entry (faithful : ManifestReader.Faithful plan.reader)
    (announced : plan.announcement? db repository asset = .ok (some first)) :
    ∃ entry, first.Writes entry := by
  obtain ⟨-, manifest, told, read, described⟩ := announcement?_reads announced
  have readable := (faithful _ _ _ read).1
  let hash (integrity : WideText) := integrityText (Digest.integrityTag integrity) first.blob
  let top := Package.versionEntry manifest first.release.id first.release.version repository
    first.blob.sha1
  refine ⟨Package.renewedEntry hash top,
    Package.renews_renewedEntry hash (Package.storable_versionEntry readable), ?_⟩
  intro stored storable tagged
  have merged : Members.Matches (Package.merge stored (Package.fragmentFor manifest
      first.release.id first.release.version repository first.blob.sha1)) _ :=
    Package.merge_matches readable storable tagged
  rw [Announcement.mended, releaseOf_fragment described, Package.writeVersion_renewedEntry]
  dsimp only
  cases Root.distText? first.release.version Root.integrityKey stored with
  | none => exact merged
  | some integrity =>
    dsimp only
    split
    · exact merged
    · exact Package.updateDist_matches merged _ _

/-- A field that is not looked at is carried over to the root that is written. -/
theorem sameBut_mended {key : WideText}
    (announced : plan.announcement? db repository asset = .ok (some first))
    (tags : ↑Root.tagsKey ≠ key) (versions : ↑Root.versionsKey ≠ key) {stored other : Root}
    (same : Package.SameBut key stored other) :
    Package.SameBut key (first.mended stored) (first.mended other) := by
  obtain ⟨-, manifest, told, read, described⟩ := announcement?_reads announced
  have distinct : (Assoc.keys first.release.fragment).Nodup := by
    rw [releaseOf_fragment described]
    exact Package.distinct_fragmentFor
  have merged := same.merge distinct tags
  have text : Root.distText? first.release.version Root.integrityKey stored =
      Root.distText? first.release.version Root.integrityKey other := by
    rw [Root.distText?, Root.distText?, Package.dist_congr (same.child versions)]
  rw [Announcement.mended, Announcement.mended, text]
  split
  · exact merged
  · split
    · exact merged
    · exact merged.updateDist versions _ _

/-- The revision that a document was read with does not matter for the row that is written. -/
theorem nextRow_mended (faithful : ManifestReader.Faithful plan.reader)
    (announced : plan.announcement? db repository asset = .ok (some first)) {stored : Root}
    (storable : Members.Storable stored) (old : String) (key : RootKey) (revision : Option Int) :
    nextRow key revision (first.mended (withRevision old stored)) =
      nextRow key revision (first.mended stored) := by
  have storable_ := Storage.storable_withRevision storable old
  exact Storage.nextRow_of_sameBut (corrects_mended faithful announced storable_).storable
    (corrects_mended faithful announced storable).storable
    (sameBut_mended announced (by decide) (by decide) (Package.sameBut_insert _ _ _)) key revision

theorem rewritten_of_not (spared : ¬first.Concerns repository row) :
    first.rewritten repository row = row :=
  if_neg spared

@[simp] theorem key_rewritten : (first.rewritten repository row).key = row.key := by
  rw [Announcement.rewritten]
  split <;> rfl

/-- A row that is rewritten has a document, and gets the next revision. -/
theorem rewritten_of_concerns (concerns : first.Concerns repository row) :
    ∃ stored, row.document? = some stored ∧ first.rewritten repository row =
      nextRow row.key row.revision? (first.mended stored) := by
  have concerns_ := concerns
  obtain ⟨-, stored, found, -⟩ := concerns_
  refine ⟨stored, found, ?_⟩
  rw [Announcement.rewritten, if_pos concerns, Option.mem_def.mp found, Option.getD_some]

/-- The document after the rewriting is the one that was put together. -/
theorem document?_rewritten (faithful : ManifestReader.Faithful plan.reader)
    (announced : plan.announcement? db repository asset = .ok (some first)) {stored : Root}
    (found : row.document? = some stored) : ∃ after,
      (nextRow row.key row.revision? (first.mended stored)).document? = some after ∧
        Members.Matches after (withRevision (Decimal.integerText (row.count + 1))
          (first.mended stored)) := by
  have mended := corrects_mended faithful announced (row.storable_document found)
  exact ⟨_, Storage.document?_nextRow mended.storable row.key row.revision?,
    Members.Matches.sorted_self (Storage.storable_withRevision mended.storable _)⟩

/-- Whether an announcement concerns a row does not change when another version is rewritten. -/
theorem concerns_rewritten (faithful : ManifestReader.Faithful plan.reader)
    (announced : plan.announcement? db repository asset = .ok (some first))
    (differ : first.key repository = second.key repository →
      second.release.version ≠ first.release.version) :
    second.Concerns repository (first.rewritten repository row) ↔
      second.Concerns repository row := by
  by_cases concerns : first.Concerns repository row
  · obtain ⟨stored, found, same⟩ := rewritten_of_concerns concerns
    obtain ⟨after, found_, matching⟩ := document?_rewritten faithful announced found
    have mended := corrects_mended faithful announced (row.storable_document found)
    rw [same, Announcement.Concerns, Announcement.Concerns, found, found_]
    refine and_congr_right fun own => ?_
    have text : Root.distText? second.release.version Root.shasumKey after =
        Root.distText? second.release.version Root.shasumKey stored := by
      rw [Package.distText?_matches matching, Storage.distText?_withRevision,
        mended.others _ (differ (concerns.1.symm.trans own))]
    simp [text]
  · rw [rewritten_of_not concerns]

/-- A row that is rewritten has a tagged document if it had one before. -/
theorem tagged_rewritten (faithful : ManifestReader.Faithful plan.reader)
    (announced : plan.announcement? db repository asset = .ok (some first)) (tagged : row.Tagged) :
    (first.rewritten repository row).Tagged := by
  by_cases concerns : first.Concerns repository row
  · obtain ⟨stored, found, same⟩ := rewritten_of_concerns concerns
    obtain ⟨after, found_, matching⟩ := document?_rewritten faithful announced found
    obtain ⟨entry, writes⟩ := exists_entry faithful announced
    have mended := writes.mended stored (row.storable_document found) (tagged stored found)
    rw [same]
    intro root present
    rw [found_] at present
    cases present
    rw [Root.Tagged, Package.latest?_matches matching, Storage.latest?_withRevision,
      Package.latest?_matches mended, Package.latest?_writeVersion]
    exact tagged stored found
  · rwa [rewritten_of_not concerns]

/-- A row that is rewritten twice holds both entries, one written behind the other. -/
theorem rewritten_rewritten (faithful : ManifestReader.Faithful plan.reader)
    (announced : plan.announcement? db repository asset = .ok (some first))
    {entry entry_ : Option Value → Value} (writes : first.Writes entry)
    (writes_ : second.Writes entry_) (tagged : row.Tagged)
    (concerns : first.Concerns repository row)
    (concerns_ : second.Concerns repository (first.rewritten repository row)) {stored : Root}
    (found : row.document? = some stored) :
    second.rewritten repository (first.rewritten repository row) =
      nextRow row.key (some (row.count + 1))
        ((stored.writeVersion first.release.id.text first.release.version entry).writeVersion
          second.release.id.text second.release.version entry_) := by
  obtain ⟨_, found_, same⟩ := rewritten_of_concerns concerns
  cases found.symm.trans found_
  obtain ⟨after, read, matching⟩ := document?_rewritten faithful announced found
  obtain ⟨_, read_, same_⟩ := rewritten_of_concerns concerns_
  have tagged_ := tagged_rewritten faithful announced tagged _ read_
  rw [same] at read_ same_ ⊢
  cases read.symm.trans read_
  have storable := row.storable_document found
  have once := writes.mended stored storable (tagged stored found)
  have twice := writes_.mended after matching.left tagged_
  have written : Members.Matches after (withRevision (Decimal.integerText (row.count + 1))
      (stored.writeVersion first.release.id.text first.release.version entry)) :=
    matching.trans (Storage.Matches.withRevision once _)
  rw [same_, Storage.nextRow_matches twice,
    Storage.nextRow_writeVersion writes_.renews once.right written]
  rfl

/-- Announcements of different versions may rewrite a row in either order. -/
theorem rewritten_comm (faithful : ManifestReader.Faithful plan.reader)
    (announced : plan.announcement? db repository asset = .ok (some first))
    (announced_ : plan.announcement? db repository other = .ok (some second))
    (differ : first.key repository = second.key repository →
      first.release.version ≠ second.release.version) (tagged : row.Tagged) :
    second.rewritten repository (first.rewritten repository row) =
      first.rewritten repository (second.rewritten repository row) := by
  have spared : second.Concerns repository (first.rewritten repository row) ↔ _ :=
    concerns_rewritten faithful announced fun same => Ne.symm (differ same)
  have spared_ : first.Concerns repository (second.rewritten repository row) ↔ _ :=
    concerns_rewritten faithful announced_ fun same => differ same.symm
  by_cases one : first.Concerns repository row
  · by_cases two : second.Concerns repository row
    · obtain ⟨stored, found, -⟩ := rewritten_of_concerns one
      obtain ⟨entry, writes⟩ := exists_entry faithful announced
      obtain ⟨entry_, writes_⟩ := exists_entry faithful announced_
      have same : first.key repository = second.key repository := one.1.symm.trans two.1
      have name : first.release.id.text = second.release.id.text :=
        Announcement.key_eq_iff.mp same
      rw [rewritten_rewritten faithful announced writes writes_ tagged one (spared.mpr two) found,
        rewritten_rewritten faithful announced_ writes_ writes tagged two (spared_.mpr one) found,
        name]
      exact Storage.nextRow_matches (Package.writeVersion_comm writes.renews writes_.renews
        (row.storable_document found) (differ same)) _ _
    · rw [rewritten_of_not two, rewritten_of_not (mt spared.mp two)]
  · rw [rewritten_of_not one, rewritten_of_not (mt spared_.mp one)]

end Rewritten

end RegistryMend.Repair
