import RegistryMend.Proofs.Repair.Visit
import RegistryMend.Proofs.Storage.Repositories

/-! # Visits one after the other

A visit changes nothing but package roots. It leaves the document that the asset announces in
agreement, and keeps every other agreement that the asset does not contradict. An asset that is in
agreement is quiet: visiting it again changes nothing.
-/

namespace RegistryMend.Repair

open RegistryMend.Package (Root)
open RegistryMend.Storage (Database RootKey UnitOfWork)

section Visit

variable {plan : Plan} {repository : String} {asset : Asset} {db after : Database}
  {result : Except Failure Bool} {events : Array Event}

/-- A visit changes nothing but package roots. -/
theorem Visit.frame (visit : Visit plan repository asset db result after events) :
    ∃ roots, after = db.withRoots roots := by
  cases visit with
  | mended => exact ⟨_, rfl⟩
  | _ => exact ⟨db.roots, rfl⟩

/-- What a visit writes is put together from what can be stored. -/
theorem corrects_written (faithful : ManifestReader.Faithful plan.reader)
    {announcement : Announcement}
    (announced : plan.announcement? db repository asset = .ok (some announcement))
    {stored : Root} (found : db.document? (announcement.key repository) = some stored)
    (revision : String) : ∃ root,
      (db.written (announcement.key repository) (announcement.mended
        (Storage.withRevision revision stored))).document? (announcement.key repository) =
          some root ∧
      Corrects announcement.release.version announcement.blob.sha1 stored root := by
  have storable := Database.storable_document found
  have mended := corrects_mended faithful announced
    (Storage.storable_withRevision storable revision)
  obtain ⟨root, read, same⟩ :=
    Database.document?_written_self db (announcement.key repository) mended.storable
  refine ⟨root, read, Database.storable_document read, ?_, fun other differ => ?_⟩
  · rw [same, mended.checksum]
  · rw [same, mended.others other differ, Storage.distText?_withRevision]

/-- The revision of a package grows by one with every correction that is reported. -/
theorem Visit.revision (faithful : ManifestReader.Faithful plan.reader)
    (visit : Visit plan repository asset db result after events) (key : RootKey) :
    after.revision key = db.revision key + corrections key events := by
  cases visit with
  | @mended announcement _ _ _ _ _ _ _ reported =>
    rw [(reported faithful).counted key]
    by_cases same : announcement.key repository = key
    · rw [← same, if_pos rfl]
      exact Database.revision_written_self ..
    · rw [if_neg fun equal => same (Option.some.inj equal),
        Database.revision_written_of_ne _ _ _ (Ne.symm same)]
      exact (Int.add_zero _).symm
  | _ =>
    rename_i reported
    rw [(reported faithful).counted key, if_neg (by simp)]
    exact (Int.add_zero _).symm

/-- A visit raises one revision of the repository by one if it corrects a root, and none else. -/
theorem Visit.revisions {changed : Bool}
    (visit : Visit plan repository asset db (.ok changed) after events) :
    after.revisions repository = db.revisions repository + if changed then 1 else 0 := by
  cases visit with
  | @mended announcement => exact Database.revisions_written db (announcement.key repository) _
  | _ => exact (Int.add_zero _).symm

/-- A visit reports on its asset. -/
theorem Visit.concerns (faithful : ManifestReader.Faithful plan.reader)
    (visit : Visit plan repository asset db result after events) :
    ∀ event ∈ events, event.concernsAsset = true := by
  cases visit with
  | mended _ _ _ _ reported => exact (reported faithful).concerns
  | _ =>
    rename_i reported
    exact (reported faithful).concerns

/-- A document stays a document. -/
theorem Visit.keeps_document (faithful : ManifestReader.Faithful plan.reader)
    (visit : Visit plan repository asset db result after events) {key : RootKey}
    (present : (db.document? key).isSome) : (after.document? key).isSome := by
  cases visit with
  | @mended announcement stored revision _ announced _ found =>
    by_cases same : key = announcement.key repository
    · obtain ⟨root, read, -⟩ := corrects_written faithful announced found revision
      rw [same, read]
      rfl
    · rwa [Database.document?_written_of_ne _ _ _ same]
  | _ => exact present

/-- An agreement is kept, unless the asset announces another checksum for the version. -/
theorem Visit.keeps_agreement (faithful : ManifestReader.Faithful plan.reader)
    (visit : Visit plan repository asset db result after events) {key : RootKey}
    {version : WideText} {sha1 : String} (agrees : db.AgreesOn key version sha1)
    (consistent : ∀ announcement,
      plan.announcement? db repository asset = .ok (some announcement) →
        announcement.key repository = key → announcement.release.version = version →
          announcement.blob.sha1 = sha1) : after.AgreesOn key version sha1 := by
  cases visit with
  | @mended announcement stored revision _ announced _ found =>
    intro root read
    by_cases same : key = announcement.key repository
    · subst same
      obtain ⟨written, read_, corrects⟩ := corrects_written faithful announced found revision
      rw [read_] at read
      cases read
      by_cases same : version = announcement.release.version
      · rw [same, corrects.checksum, consistent announcement announced rfl same.symm]
      · rw [corrects.others version same]
        exact agrees stored found
    · rw [Database.document?_written_of_ne _ _ _ same] at read
      exact agrees root read
  | _ => exact agrees

/-- After a visit the document agrees with what the asset announces. -/
theorem Visit.agrees_after (faithful : ManifestReader.Faithful plan.reader) {changed : Bool}
    (visit : Visit plan repository asset db (.ok changed) after events)
    {announcement : Announcement}
    (announced : plan.announcement? db repository asset = .ok (some announcement)) :
    announcement.Agrees repository after := by
  cases visit with
  | silent announced_ =>
    rw [announced] at announced_
    cases announced_
  | agreeing announced_ _ agrees =>
    rw [announced] at announced_
    cases announced_
    exact agrees
  | @mended other stored revision _ announced_ _ found =>
    rw [announced] at announced_
    cases announced_
    intro root read
    obtain ⟨written, read_, corrects⟩ := corrects_written faithful announced found revision
    rw [read_] at read
    cases read
    exact corrects.checksum

/-- An asset is quiet if it announces nothing or the document agrees with it already. -/
inductive Plan.Quiet (plan : Plan) (repository : String) (db : Database) (asset : Asset) : Prop
  | silent (announced : plan.announcement? db repository asset = .ok none)
  | agreeing {announcement : Announcement}
      (announced : plan.announcement? db repository asset = .ok (some announcement))
      (usable : db.holds .packageRoots = true)
      (agrees : announcement.Agrees repository db)

/-- A visit to a quiet asset changes nothing. -/
theorem Plan.Quiet.unchanged (quiet : plan.Quiet repository db asset)
    (visit : Visit plan repository asset db result after events) :
    result = .ok false ∧ after = db := by
  cases quiet with
  | silent announced =>
    cases visit with
    | silent => exact ⟨rfl, rfl⟩
    | unreadable announced_ | agreeing announced_ | mended announced_ | failed announced_ =>
      rw [announced] at announced_
      cases announced_
  | agreeing announced usable agrees =>
    cases visit with
    | silent announced_ | unreadable announced_ =>
      rw [announced] at announced_
      cases announced_
    | agreeing => exact ⟨rfl, rfl⟩
    | mended announced_ _ found differs =>
      rw [announced] at announced_
      cases announced_
      exact absurd (agrees _ found) differs
    | failed announced_ refused =>
      rw [announced] at announced_
      cases announced_
      rcases refused with ⟨unusable, -⟩ | ⟨-, differs, -⟩
      · rw [usable] at unusable
        cases unusable
      · exact absurd agrees differs

/-- An asset is quiet after a visit that did not fail. -/
theorem Visit.quiet_after (faithful : ManifestReader.Faithful plan.reader) {changed : Bool}
    (visit : Visit plan repository asset db (.ok changed) after events) :
    plan.Quiet repository after asset := by
  have agrees {announcement : Announcement}
      (announced : plan.announcement? db repository asset = .ok (some announcement)) :=
    visit.agrees_after faithful announced
  cases visit with
  | silent announced => exact .silent announced
  | agreeing announced usable => exact .agreeing announced usable (agrees announced)
  | mended announced usable =>
    exact .agreeing ((announcement?_withRoots ..).trans announced) usable (agrees announced)

/-- Two assets do not contradict each other: the same version of the same package has the same
checksum. -/
def Plan.Consistent (plan : Plan) (db : Database) (repository : String) (asset other : Asset) :
    Prop :=
  ∀ first second, plan.announcement? db repository asset = .ok (some first) →
    plan.announcement? db repository other = .ok (some second) →
      first.release.id.text = second.release.id.text →
        first.release.version = second.release.version → first.blob.sha1 = second.blob.sha1

/-- A quiet asset stays quiet when an asset is visited that does not contradict it. -/
theorem Plan.Quiet.stays (faithful : ManifestReader.Faithful plan.reader) {other : Asset}
    (quiet : plan.Quiet repository db other)
    (visit : Visit plan repository asset db result after events)
    (consistent : plan.Consistent db repository asset other) :
    plan.Quiet repository after other := by
  obtain ⟨roots, rfl⟩ := visit.frame
  cases quiet with
  | silent announced => exact .silent announced
  | agreeing announced usable agrees =>
    refine .agreeing announced usable (visit.keeps_agreement faithful agrees ?_)
    intro announcement announced_ sameKey sameVersion
    exact consistent announcement _ announced_ announced
      (Announcement.key_eq_iff.mp sameKey) sameVersion

end Visit

/-! ## Lists of assets -/

/-- The visits to assets one after the other, up to the first that fails. -/
inductive Visits (plan : Plan) (repository : String) :
    List Asset → Database → Except Failure Nat → Database → Array Event → Prop
  | nil {db : Database} : Visits plan repository [] db (.ok 0) db #[]
  | stop {asset : Asset} {rest : List Asset} {db after : Database} {failure : Failure}
      {events : Array Event}
      (first : Visited plan repository asset db (.error failure) after events) :
      Visits plan repository (asset :: rest) db (.error failure) after events
  | next {asset : Asset} {rest : List Asset} {db middle after : Database} {changed : Bool}
      {result : Except Failure Nat} {events others : Array Event}
      (first : Visited plan repository asset db (.ok changed) middle events)
      (later : Visits plan repository rest middle result after others) :
      Visits plan repository (asset :: rest) db
        (result.map ((if changed then 1 else 0) + ·)) after (events ++ others)

section Visits

variable {plan : Plan} {repository : String} {assets : List Asset} {db after : Database}
  {result : Except Failure Nat} {events : Array Event}

/-- The work on assets makes these visits in every transaction. -/
theorem Visits.runs (visits : Visits plan repository assets db result after events)
    (committed : Database) : Work.Runs (processAssets plan repository assets)
      ⟨committed, some db⟩ result ⟨committed, some after⟩ events := by
  induction visits with
  | nil => exact Work.runs_pure 0 _
  | stop first => exact .bind_error (first.runs committed)
  | @next _ _ _ _ _ changed result _ others first later ih =>
    refine .bind (first.runs committed) ?_
    cases result with
    | error failure => exact .bind_error ih
    | ok repaired => exact .bind_silent ih (Work.runs_pure _ _)

theorem exists_visits (plan : Plan) (repository : String) (assets : List Asset) (db : Database) :
    ∃ result after events, Visits plan repository assets db result after events := by
  induction assets generalizing db with
  | nil => exact ⟨_, _, _, .nil⟩
  | cons asset rest ih =>
    obtain ⟨result, middle, events, first⟩ := exists_visited plan repository asset db
    cases result with
    | error failure => exact ⟨_, _, _, .stop first⟩
    | ok changed =>
      obtain ⟨result, after, others, later⟩ := ih middle
      exact ⟨_, _, _, .next first later⟩

theorem Visits.frame (visits : Visits plan repository assets db result after events) :
    ∃ roots, after = db.withRoots roots := by
  induction visits with
  | @nil db => exact ⟨db.roots, rfl⟩
  | stop first => exact first.visit.frame
  | next first later ih =>
    obtain ⟨roots, rfl⟩ := first.visit.frame
    obtain ⟨roots_, same⟩ := ih
    exact ⟨roots_, same⟩

/-- The revision of a package grows by one with every correction that is reported. -/
theorem Visits.revision (faithful : ManifestReader.Faithful plan.reader)
    (visits : Visits plan repository assets db result after events) (key : RootKey) :
    after.revision key = db.revision key + corrections key events := by
  induction visits with
  | nil => exact (Int.add_zero _).symm
  | stop first => exact first.visit.revision faithful key
  | next first later ih =>
    rw [ih, first.visit.revision faithful key, corrections_append]
    push_cast
    rw [Int.add_assoc]

/-- Visits raise the revisions of the repository by one for every corrected root. -/
theorem Visits.revisions {repaired : Nat}
    (visits : Visits plan repository assets db (.ok repaired) after events) :
    after.revisions repository = db.revisions repository + repaired := by
  generalize given : (Except.ok repaired : Except Failure Nat) = result at visits
  induction visits generalizing repaired with
  | nil =>
    cases given
    exact (Int.add_zero _).symm
  | stop first => cases given
  | @next _ _ _ _ _ changed inner _ _ first later ih =>
    cases inner with
    | error failure => cases given
    | ok count =>
      cases given
      rw [ih rfl, first.visit.revisions]
      cases changed <;> push_cast <;> omega

theorem Visits.concerns (faithful : ManifestReader.Faithful plan.reader)
    (visits : Visits plan repository assets db result after events) :
    ∀ event ∈ events, event.concernsAsset = true := by
  induction visits with
  | nil => exact fun event member => absurd member (Array.not_mem_empty event)
  | stop first => exact first.visit.concerns faithful
  | next first later ih =>
    intro event member
    rcases Array.mem_append.mp member with earlier | rest
    · exact first.visit.concerns faithful event earlier
    · exact ih event rest

/-- Visits to two lists are the visits to both one after the other. -/
theorem Visits.append {others : List Asset} {repaired : Nat} {last : Database}
    {result : Except Failure Nat} {events_ : Array Event}
    (first : Visits plan repository assets db (.ok repaired) after events)
    (second : Visits plan repository others after result last events_) :
    Visits plan repository (assets ++ others) db (result.map (repaired + ·)) last
      (events ++ events_) := by
  generalize given : (Except.ok repaired : Except Failure Nat) = result_ at first
  induction first generalizing repaired with
  | nil =>
    cases given
    have same : result.map (0 + ·) = result := by
      cases result with
      | error failure => rfl
      | ok count => exact congrArg Except.ok (Nat.zero_add count)
    rwa [same, Array.empty_append]
  | stop first => cases given
  | @next _ _ _ _ _ changed inner _ _ first later ih =>
    cases inner with
    | error failure => cases given
    | ok count =>
      cases given
      have same : result.map ((if changed = true then 1 else 0) + count + ·) =
          (result.map (count + ·)).map ((if changed = true then 1 else 0) + ·) := by
        cases result with
        | error failure => rfl
        | ok more => exact congrArg Except.ok (Nat.add_assoc ..)
      rw [same, Array.append_assoc]
      exact .next first (ih second rfl)

/-- Visits that fail do not get to what comes behind. -/
theorem Visits.append_error {failure : Failure}
    (first : Visits plan repository assets db (.error failure) after events)
    (others : List Asset) :
    Visits plan repository (assets ++ others) db (.error failure) after events := by
  generalize given : (Except.error failure : Except Failure Nat) = result at first ⊢
  induction first with
  | nil => cases given
  | stop first => exact .stop first
  | @next _ _ _ _ _ _ inner _ _ first later ih =>
    cases inner with
    | error failure_ => exact .next first (ih given)
    | ok count => cases given

/-- Assets can be visited in one way only. -/
theorem Visits.unique {last : Database} {result_ : Except Failure Nat} {others : Array Event}
    (first : Visits plan repository assets db result after events)
    (second : Visits plan repository assets db result_ last others) :
    result = result_ ∧ after = last ∧ events = others := by
  obtain ⟨sameResult, sameStore, sameEvents⟩ := (first.runs db).unique (second.runs db)
  exact ⟨sameResult, Option.some.inj (UnitOfWork.mk.inj sameStore).2, sameEvents⟩

/-- Visits that succeed over a whole list succeed over what comes behind its beginning. -/
theorem Visits.behind {rest : List Asset} {last : Database} {repaired whole : Nat}
    {told : Array Event}
    (first : Visits plan repository assets db (.ok repaired) after events)
    (both : Visits plan repository (assets ++ rest) db (.ok whole) last told) :
    ∃ more others, Visits plan repository rest after (.ok more) last others := by
  obtain ⟨result, end_, others, later⟩ := exists_visits plan repository rest after
  obtain ⟨same, rfl, -⟩ := (first.append later).unique both
  cases result with
  | error failure => cases same
  | ok more => exact ⟨more, others, later⟩

/-- Visits that succeed over a list succeed over its beginning and then over what comes behind. -/
theorem Visits.split {rest : List Asset} {whole : Nat}
    (both : Visits plan repository (assets ++ rest) db (.ok whole) after events) :
    ∃ repaired middle told more others,
      Visits plan repository assets db (.ok repaired) middle told ∧
        Visits plan repository rest middle (.ok more) after others := by
  obtain ⟨result, middle, told, first⟩ := exists_visits plan repository assets db
  cases result with
  | error failure =>
    obtain ⟨same, -⟩ := (first.append_error rest).unique both
    cases same
  | ok repaired =>
    obtain ⟨more, others, later⟩ := first.behind both
    exact ⟨repaired, middle, told, more, others, first, later⟩

/-- A document stays a document. -/
theorem Visits.keeps_document (faithful : ManifestReader.Faithful plan.reader)
    (visits : Visits plan repository assets db result after events) {key : RootKey}
    (present : (db.document? key).isSome) : (after.document? key).isSome := by
  induction visits with
  | nil => exact present
  | stop first => exact first.visit.keeps_document faithful present
  | next first later ih => exact ih (first.visit.keeps_document faithful present)

/-- An agreement is kept, unless one of the assets announces another checksum for the version. -/
theorem Visits.keeps_agreement (faithful : ManifestReader.Faithful plan.reader)
    (visits : Visits plan repository assets db result after events) {key : RootKey}
    {version : WideText} {sha1 : String} (agrees : db.AgreesOn key version sha1)
    (consistent : ∀ asset ∈ assets, ∀ announcement,
      plan.announcement? db repository asset = .ok (some announcement) →
        announcement.key repository = key → announcement.release.version = version →
          announcement.blob.sha1 = sha1) : after.AgreesOn key version sha1 := by
  induction visits with
  | nil => exact agrees
  | stop first =>
    exact first.visit.keeps_agreement faithful agrees (consistent _ (List.mem_cons_self ..))
  | next first later ih =>
    obtain ⟨roots, rfl⟩ := first.visit.frame
    exact ih (first.visit.keeps_agreement faithful agrees (consistent _ (List.mem_cons_self ..)))
      fun other member => consistent other (List.mem_cons_of_mem _ member)

/-- A quiet asset stays quiet when assets are visited that do not contradict it. -/
theorem Plan.Quiet.stays_over (faithful : ManifestReader.Faithful plan.reader) {other : Asset}
    (quiet : plan.Quiet repository db other)
    (visits : Visits plan repository assets db result after events)
    (consistent : ∀ asset ∈ assets, plan.Consistent db repository asset other) :
    plan.Quiet repository after other := by
  induction visits with
  | nil => exact quiet
  | stop first =>
    exact quiet.stays faithful first.visit (consistent _ (List.mem_cons_self ..))
  | next first later ih =>
    have kept := quiet.stays faithful first.visit (consistent _ (List.mem_cons_self ..))
    obtain ⟨roots, rfl⟩ := first.visit.frame
    exact ih kept fun asset member => consistent asset (List.mem_cons_of_mem _ member)

/-- After visits that did not fail all of the assets are quiet. -/
theorem Visits.quiet_after (faithful : ManifestReader.Faithful plan.reader) {repaired : Nat}
    (visits : Visits plan repository assets db (.ok repaired) after events)
    (consistent : ∀ first ∈ assets, ∀ second ∈ assets, plan.Consistent db repository first second) :
    ∀ asset ∈ assets, plan.Quiet repository after asset := by
  generalize given : (Except.ok repaired : Except Failure Nat) = result at visits
  induction visits generalizing repaired with
  | nil => exact fun asset member => absurd member List.not_mem_nil
  | stop first => cases given
  | @next asset rest _ _ _ _ inner _ _ first later ih =>
    cases inner with
    | error failure => cases given
    | ok count =>
      -- The first asset is quiet after its own visit, and stays so during the later ones.
      have quiet := first.visit.quiet_after faithful
      obtain ⟨roots, rfl⟩ := first.visit.frame
      intro other member
      rcases List.mem_cons.mp member with rfl | member
      · exact quiet.stays_over faithful later fun second member =>
          consistent second (List.mem_cons_of_mem _ member) _ (List.mem_cons_self ..)
      · exact ih (fun first member second member_ => consistent first
          (List.mem_cons_of_mem _ member) second (List.mem_cons_of_mem _ member_)) rfl other member

/-- Visits to quiet assets change nothing. -/
theorem Visits.unchanged (visits : Visits plan repository assets db result after events)
    (quiet : ∀ asset ∈ assets, plan.Quiet repository db asset) : result = .ok 0 ∧ after = db := by
  induction visits with
  | nil => exact ⟨rfl, rfl⟩
  | stop first =>
    obtain ⟨failed, -⟩ := (quiet _ (List.mem_cons_self ..)).unchanged first.visit
    cases failed
  | next first later ih =>
    obtain ⟨same, rfl⟩ := (quiet _ (List.mem_cons_self ..)).unchanged first.visit
    cases same
    obtain ⟨rfl, rfl⟩ := ih fun asset member => quiet asset (List.mem_cons_of_mem _ member)
    exact ⟨rfl, rfl⟩

end Visits

end RegistryMend.Repair
