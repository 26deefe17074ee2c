import RegistryMend.Proofs.Repair.Numbering

/-! # Passes whose assets are numbered in two ways

A pass that completes leaves the same package roots however the assets are numbered, if those of
each repository announce different versions and all documents have a tag `latest`. A pass that does
not complete leaves the same roots of every repository whose own repair succeeds, or whose assets
can all be read where the revisions have room.
-/

namespace RegistryMend.Repair

open RegistryMend.Storage (AssetTable Database)

/-! ## Reports of failures -/

section Sound

variable {plan : Plan} {repository : String} {db after : Database} {events : Array Event}

theorem failsRepository_of_concerns {event : Event} (concerns : event.concernsAsset = true) :
    event.failsRepository = false := by
  cases event <;> first | rfl | cases concerns

/-- No event says that a repository failed. -/
def Sound (events : Array Event) : Prop :=
  ∀ event ∈ events, event.failsRepository = false

instance (events : Array Event) : Decidable (Sound events) :=
  inferInstanceAs (Decidable (∀ event ∈ events, event.failsRepository = false))

theorem sound_append {first second : Array Event} :
    Sound (first ++ second) ↔ Sound first ∧ Sound second := by
  simp only [Sound, Array.mem_append, or_imp, forall_and]

theorem sound_singleton {event : Event} : Sound #[event] ↔ event.failsRepository = false := by
  simp [Sound]

theorem BatchRun.sound (faithful : ManifestReader.Faithful plan.reader) {cursor : Cursor}
    {result : Except Failure BatchResult}
    (batch : BatchRun plan repository cursor db result after events) : Sound events := by
  have opening : Sound #[plan.opening cursor] := sound_singleton.mpr rfl
  cases batch with
  | unread => exact opening
  | completed _ visits | stopped _ visits =>
    refine sound_append.mpr ⟨opening, fun event member => ?_⟩
    exact failsRepository_of_concerns (visits.concerns faithful event member)

theorem BatchRuns.sound (faithful : ManifestReader.Faithful plan.reader) {fuel : Nat}
    {cursor : Cursor} {tally : Tally} {final : Except Failure Tally}
    (batches : BatchRuns plan repository fuel cursor tally db final after events) :
    Sound events := by
  induction batches with
  | spent => simp [Sound]
  | failed first | last first => exact first.sound faithful
  | next first _ _ ih => exact sound_append.mpr ⟨first.sound faithful, ih⟩

end Sound

section Passes

variable {plan : Plan} {db after : Database} {names : List String}
  {result : Except Failure Unit} {events : Array Event}

theorem not_succeeds {name : String} {failure : Failure}
    (failed : (plan.alone db name).1 = .error failure) : ¬plan.Succeeds db name := by
  rintro ⟨tally, succeeded⟩
  rw [failed] at succeeded
  cases succeeded

/-- No repository fails in a pass exactly if the repair of each alone succeeds. -/
theorem RepositoryRuns.sound_iff (faithful : ManifestReader.Faithful plan.reader)
    (distinct : names.Nodup) (runs : RepositoryRuns plan names db result after events) :
    result = .ok () ∧ Sound events ↔ ∀ name ∈ names, plan.Succeeds db name := by
  have fails {name : String} {rest : List String} {failure : Failure} {db : Database}
      (failed : (plan.alone db name).1 = .error failure) :
      ¬∀ other ∈ name :: rest, plan.Succeeds db other :=
    fun succeed => not_succeeds failed (succeed name (List.mem_cons_self ..))
  induction runs with
  | nil => simp [Sound]
  | stop _ first => exact iff_of_false (by simp) (fails first.alone.1)
  | skip _ first =>
    refine iff_of_false ?_ (fails first.alone.1)
    rintro ⟨-, sound⟩
    have failed := sound_singleton.mp (sound_append.mp (sound_append.mp sound).1).2
    cases failed
  | @next repository rest db middle _ tally _ _ _ first later ih =>
    rw [List.nodup_cons] at distinct
    have closing : Sound (plan.closing repository (.ok tally)) := sound_singleton.mpr rfl
    have behind := ih distinct.2
    have alike {name : String} (member : name ∈ rest) :
        plan.Succeeds middle name ↔ plan.Succeeds db name := by
      rw [Plan.Succeeds, Plan.Succeeds, first.ends_behind fun same => distinct.1 (same ▸ member)]
    rw [sound_append, sound_append, List.forall_mem_cons]
    constructor
    · rintro ⟨ended, -, sound⟩
      refine ⟨⟨tally, first.alone.1⟩, fun name member => (alike member).mp ?_⟩
      exact behind.mp ⟨ended, sound⟩ name member
    · rintro ⟨-, succeed⟩
      obtain ⟨ended, sound⟩ :=
        behind.mpr fun name member => (alike member).mpr (succeed name member)
      exact ⟨ended, ⟨first.sound faithful, closing⟩, sound⟩

/-- A list is cut in one way at the first member without a property. -/
theorem cut_unique {α : Type} {holds : α → Prop} {before before_ behind behind_ : List α} {a b : α}
    (same : before ++ a :: behind = before_ ++ b :: behind_) (all : ∀ x ∈ before, holds x)
    (all_ : ∀ x ∈ before_, holds x) (last : ¬holds a) (last_ : ¬holds b) :
    before = before_ ∧ a = b := by
  induction before generalizing before_ with
  | nil =>
    cases before_ with
    | nil => exact ⟨rfl, (List.cons.inj same).1⟩
    | cons first rest =>
      obtain ⟨rfl, -⟩ := List.cons.inj same
      exact absurd (all_ a (List.mem_cons_self ..)) last
  | cons first rest ih =>
    cases before_ with
    | nil =>
      obtain ⟨rfl, -⟩ := List.cons.inj same
      exact absurd (all first (List.mem_cons_self ..)) last_
    | cons first_ rest_ =>
      obtain ⟨rfl, tails⟩ := List.cons.inj same
      obtain ⟨rfl, equal⟩ := ih tails (fun x member => all x (List.mem_cons_of_mem _ member))
        (fun x member => all_ x (List.mem_cons_of_mem _ member))
      exact ⟨rfl, equal⟩

/-- Passes over databases in which the same repairs succeed get to the same repositories. -/
theorem exists_reached (faithful : ManifestReader.Faithful plan.reader) (distinct : names.Nodup)
    {db_ after_ : Database} {result_ : Except Failure Unit} {events_ : Array Event}
    (runs : RepositoryRuns plan names db result after events)
    (runs_ : RepositoryRuns plan names db_ result_ after_ events_)
    (alike : ∀ name ∈ names, plan.Succeeds db name ↔ plan.Succeeds db_ name) :
    ∃ reached, (∀ name ∈ reached, name ∈ names) ∧ plan.Apart db after reached ∧
      plan.Apart db_ after_ reached := by
  by_cases isolates : plan.isolateFailures = true
  · exact ⟨names, fun _ member => member, (runs.apart_of_isolated faithful isolates distinct).2,
      (runs_.apart_of_isolated faithful isolates distinct).2⟩
  have strict : plan.isolateFailures = false := Bool.eq_false_iff.mpr isolates
  cases runs.endsStrictly faithful strict distinct with
  | completed succeed apart =>
    cases runs_.endsStrictly faithful strict distinct with
    | completed _ apart_ => exact ⟨names, fun _ member => member, apart, apart_⟩
    | stopped split _ failed _ =>
      have member := split ▸ List.mem_append_right _ (List.mem_cons_self ..)
      exact absurd ((alike _ member).mp (succeed _ member)) (not_succeeds failed)
  | @stopped before later name failure split succeed failed apart =>
    have member : name ∈ names := split ▸ List.mem_append_right _ (List.mem_cons_self ..)
    have fails : ¬plan.Succeeds db_ name := fun succeeds =>
      not_succeeds failed ((alike name member).mpr succeeds)
    cases runs_.endsStrictly faithful strict distinct with
    | completed succeed_ _ => exact absurd (succeed_ name member) fails
    | stopped split_ succeed_ failed_ apart_ =>
      have earlier : ∀ other ∈ before, plan.Succeeds db_ other := fun other present =>
        (alike other (split ▸ List.mem_append_left _ present)).mp (succeed other present)
      obtain ⟨rfl, rfl⟩ := cut_unique (split.symm.trans split_) earlier succeed_ fails
        (not_succeeds failed_)
      refine ⟨before ++ [name], fun other present => ?_, apart, apart_⟩
      rcases List.mem_append.mp present with present | last
      · exact split ▸ List.mem_append_left _ present
      · rwa [List.mem_singleton.mp last]

end Passes

/-! ## Passes over the same assets -/

/-- A pass over premises. -/
def Plan.pass (plan : Plan) (premises : Premises) : Except Failure Unit × Session Premises :=
  (repair plan).runIn ⟨premises, #[], 0⟩

/-- The package roots of a repository behind a pass. -/
def Plan.rootsBehind (plan : Plan) (premises : Premises) (name : String) : List Storage.RootRow :=
  (plan.pass premises).2.store.opened.rootsOf name

/-- A pass completes if it does not fail, and reports no repository that failed. -/
def Plan.Completes (plan : Plan) (premises : Premises) : Prop :=
  (plan.pass premises).1 = .ok () ∧ Sound (plan.pass premises).2.events

/-- How passes over two premises compare. -/
structure Plan.EndsAlike (plan : Plan) (premises other : Premises) : Prop where
  completes : plan.Completes premises ↔ plan.Completes other
  /-- A pass that completes leaves the same package roots. -/
  completed : plan.Completes premises →
    ∀ name, plan.rootsBehind premises name = plan.rootsBehind other name
  /-- However a pass ends, it leaves the same package roots of a repository that is not selected,
  whose own repair succeeds, or whose assets can all be read and whose revisions have room. -/
  each : ∀ name, (name ∈ plan.selected premises.database → plan.Succeeds premises.opened name ∨
      plan.Legible premises.opened name ∧ premises.opened.HasRoom name) →
    plan.rootsBehind premises name = plan.rootsBehind other name

theorem exists_pass (plan : Plan) (premises : Premises) : ∃ result after events,
    PassRun plan premises result after events ∧
      (plan.Completes premises ↔ result = .ok () ∧ Sound events) ∧
      ∀ name, plan.rootsBehind premises name = after.opened.rootsOf name := by
  obtain ⟨result, after, events, runs, pass⟩ := exists_passRun plan premises
  obtain ⟨ended, left, told⟩ : (plan.pass premises).1 = result ∧
      (plan.pass premises).2.store = after ∧
      (plan.pass premises).2.events = #[] ++ events := runs.seen
  rw [Array.empty_append] at told
  refine ⟨result, after, events, pass, ?_, fun name => ?_⟩
  · rw [Plan.Completes, ended, told]
  · rw [Plan.rootsBehind, left]

section Whole

variable {plan : Plan} {db : Database} {table : AssetTable}

/-- A pass that takes the lock completes exactly if the repair of each selected repository alone
succeeds. -/
theorem completes_iff_succeed (faithful : ManifestReader.Faithful plan.reader)
    {premises : Premises} (free : premises.lock = .free) {repositories : List Repository}
    (found : browse premises.database = .ok repositories) :
    plan.Completes premises ↔
      ∀ name ∈ plan.select repositories, plan.Succeeds premises.opened name := by
  obtain ⟨result, after, events, pass, completes, -⟩ := exists_pass plan premises
  rw [completes]
  cases pass with
  | skipped taken => exact absurd free taken
  | unread _ found_ => cases found.symm.trans found_
  | repaired _ found_ _ runs =>
    cases found.symm.trans found_
    rw [← runs.sound_iff faithful (nodup_select found), sound_append, sound_append, sound_singleton]
    cases result <;> simp [completion, Sound, Event.failsRepository]

/-- A pass leaves the same roots of a repository however the assets are numbered, if its repair does
so alone. -/
theorem RepositoryRuns.rows_renumbered (faithful : ManifestReader.Faithful plan.reader)
    {names : List String} (nodup : names.Nodup)
    (alike : ∀ name ∈ names, plan.Succeeds db name ↔ plan.Succeeds (db.withAssets table) name)
    {result result_ : Except Failure Unit} {after after_ : Database} {events events_ : Array Event}
    (runs : RepositoryRuns plan names db result after events)
    (runs_ : RepositoryRuns plan names (db.withAssets table) result_ after_ events_) {name : String}
    (same : name ∈ names → (plan.alone (db.withAssets table) name).2.store.roots =
      (plan.alone db name).2.store.roots) : after.rootsOf name = after_.rootsOf name := by
  obtain ⟨reached, inside, apart, apart_⟩ := exists_reached faithful nodup runs runs_ alike
  by_cases member : name ∈ reached
  · rw [(apart.repaired name member).rows, (apart_.repaired name member).rows, Database.rootsOf,
      Database.rootsOf, same (inside name member)]
  · rw [apart.others name member, apart_.others name member]
    rfl

/-- Passes over assets that are numbered in two ways end alike. -/
theorem endsAlike_renumbered (faithful : ManifestReader.Faithful plan.reader)
    (positive : 1 ≤ plan.batchSize) (lock : Lock) (renumbers : db.assets.Renumbers table)
    (numbered : db.assets.Numbered) (numbered_ : table.Numbered) (tagged : db.Tagged)
    (distinct : ∀ name ∈ plan.selected (some db), plan.Distinct db name) :
    plan.EndsAlike ⟨some db, lock⟩ ⟨some (db.withAssets table), lock⟩ := by
  obtain ⟨result, after, events, pass, completes, roots⟩ := exists_pass plan ⟨some db, lock⟩
  obtain ⟨result_, after_, events_, pass_, completes_, roots_⟩ :=
    exists_pass plan ⟨some (db.withAssets table), lock⟩
  cases pass with
  | skipped taken =>
    cases pass_ with
    | skipped =>
      exact ⟨completes.trans completes_.symm, fun _ name => (roots name).trans (roots_ name).symm,
        fun name _ => (roots name).trans (roots_ name).symm⟩
    | unread free | repaired free => exact absurd free taken
  | unread free found =>
    cases pass_ with
    | skipped taken => exact absurd free taken
    | unread =>
      exact ⟨completes.trans (Iff.trans (by simp) completes_.symm),
        fun _ name => (roots name).trans (roots_ name).symm,
        fun name _ => (roots name).trans (roots_ name).symm⟩
    | repaired _ found_ => cases found.symm.trans found_
  | @repaired repositories _ _ _ free found _ runs =>
    cases pass_ with
    | skipped taken => exact absurd free taken
    | unread _ found_ => cases found.symm.trans found_
    | repaired free_ found_ _ runs_ =>
      cases found.symm.trans found_
      have names : plan.selected (some db) = plan.select repositories := by
        rw [Plan.selected, found]
      have alone {name : String} (member : name ∈ plan.select repositories) :=
        alone_renumbered faithful positive renumbers numbered numbered_ tagged
          (distinct name (names ▸ member))
      have succeed : plan.Completes ⟨some db, lock⟩ ↔ _ :=
        completes_iff_succeed faithful free found
      have succeed_ : plan.Completes ⟨some (db.withAssets table), lock⟩ ↔ _ :=
        completes_iff_succeed faithful free_ found_
      have behind (name : String)
          (reason : name ∈ plan.select repositories →
            plan.Succeeds db name ∨ plan.Legible db name ∧ db.HasRoom name) :
          plan.rootsBehind ⟨some db, lock⟩ name =
            plan.rootsBehind ⟨some (db.withAssets table), lock⟩ name := by
        rw [roots, roots_]
        exact runs.rows_renumbered faithful (nodup_select found)
          (fun other member => (alone member).1) runs_
          fun member => (alone member).2 (reason member)
      constructor
      · rw [succeed, succeed_]
        exact forall_congr' fun name => imp_congr_right fun member => (alone member).1
      · exact fun whole name => behind name fun member => .inl (succeed.mp whole name member)
      · exact fun name reason => behind name (names ▸ reason)

end Whole

/-- Which versions the assets of a repository announce can be told from their rows. -/
theorem distinct_iff {plan : Plan} {db : Database} {repository : String} :
    plan.Distinct db repository ↔ ∀ row ∈ db.assets.rows, ∀ other ∈ db.assets.rows,
      row.repository = repository → other.repository = repository → row.id ≠ other.id →
        ∀ told ∈ plan.announced? db repository row, ∀ told_ ∈ plan.announced? db repository other,
          told.1 = told_.1 → told.2.1 ≠ told_.2.1 := by
  constructor
  · intro distinct row member other member_ own own_ apart told found told_ found_ same
    obtain ⟨asset, first, read, announced, rfl⟩ := announced?_eq_some_iff.mp found
    obtain ⟨asset_, second, read_, announced_, rfl⟩ := announced?_eq_some_iff.mp found_
    rw [← id_of_ofRow read, ← id_of_ofRow read_] at apart
    have differ := distinct asset asset_ ⟨row, member, own, read⟩ ⟨other, member_, own_, read_⟩ apart
    exact differ.version announced announced_ (Announcement.key_eq_iff.mpr same)
  · intro apart asset asset_ held held_ ids first second announced announced_ same
    obtain ⟨row, member, own, read⟩ := held
    obtain ⟨other, member_, own_, read_⟩ := held_
    rw [id_of_ofRow read, id_of_ofRow read_] at ids
    obtain ⟨id, version⟩ := Prod.mk.inj same
    exact apart row member other member_ own own_ ids _
      (announced?_eq_some_iff.mpr ⟨asset, first, read, announced, rfl⟩) _
      (announced?_eq_some_iff.mpr ⟨asset_, second, read_, announced_, rfl⟩)
      (congrArg Package.Id.text id) version

/-- Assets that announce different versions can be worked on in any order, if all documents have a
tag `latest`: within a transaction, and in a pass, where the order is that of their numbers. -/
theorem repair_any_order {plan : Plan} (tarballs : plan.reader = tarballReader) :
    (∀ {repository : String} {assets others : List Asset} {session : Session Database},
      assets.Perm others → session.store.Tagged →
      assets.Pairwise (plan.Differ session.store repository) →
        let run (assets : List Asset) :=
          (runBatch repository (processAssets plan repository assets)).runIn session
        ((∃ repaired, (run assets).1 = .ok repaired) ↔
            ∃ repaired, (run others).1 = .ok repaired) ∧
          (run assets).2.store = (run others).2.store) ∧
    (1 ≤ plan.batchSize → ∀ {db : Database} {table : AssetTable} (lock : Lock),
      db.assets.Renumbers table → db.assets.Numbered → table.Numbered → db.Tagged →
      (∀ name ∈ plan.selected (some db), plan.Distinct db name) →
        plan.EndsAlike ⟨some db, lock⟩ ⟨some (db.withAssets table), lock⟩) := by
  have faithful : ManifestReader.Faithful plan.reader := tarballs ▸ tarballReader_faithful
  constructor
  · intro repository assets others session perm tagged distinct
    exact processAssets_perm faithful perm tagged distinct
  · intro positive db table lock renumbers numbered numbered_ tagged distinct
    exact endsAlike_renumbered faithful positive lock renumbers numbered numbered_ tagged distinct

/-- A tarball with the manifest of version 2 of the package. -/
def laterTarball : Storage.Bytes :=
  staleTarball.take 550 ++ Archive.asciiBytes "2\"\x7d"

/-- The database with a tagged root and tarballs of two versions, which the root both lacks. -/
def pairDatabase : Database :=
  { spoiltDatabase with
    blobs := ⟨[⟨"b", "new", .integer 553⟩, ⟨"c", "newer", .integer 553⟩], by decide⟩
    roots := ⟨[⟨"r", "a", .integer 1, "\x7b\"dist-tags\":\x7b\"latest\":\"1\"\x7d\x7d"⟩], by decide⟩ }

/-- A repair with both tarballs. -/
def pairPlan : Plan :=
  { stalePlan with
    files := ⟨(["data", "blobs", "c"], .directory) ::
      (["data", "blobs", "c", "c"], .file laterTarball) :: staleFiles.nodes⟩ }

/-- The assets of the two tarballs with their numbers exchanged. -/
def swappedAssets : AssetTable :=
  ⟨[⟨1, "r", "a-2.tgz", some "c", "\x7b\"asset_kind\":\"TARBALL\"\x7d"⟩,
    ⟨2, "r", "a-1.tgz", some "b", "\x7b\"asset_kind\":\"TARBALL\"\x7d"⟩], by decide⟩

/-- Both tarballs can be worked on in either order, and numbered in either way. -/
theorem repair_any_order_pair :
    let run (assets : List Asset) :=
      (runBatch "r" (processAssets pairPlan "r" assets)).runIn ⟨pairDatabase, #[], 0⟩
    (∃ first second, assetsOf pairDatabase "r" = .ok [first, second] ∧
      (run [first, second]).2.store = (run [second, first]).2.store) ∧
    pairPlan.Completes ⟨some pairDatabase, .free⟩ ∧
    pairPlan.EndsAlike ⟨some pairDatabase, .free⟩
      ⟨some (pairDatabase.withAssets swappedAssets), .free⟩ := by
  have tagged : pairDatabase.Tagged := by decide +kernel
  have distinct : pairPlan.Distinct pairDatabase "r" := distinct_iff.mpr (by decide +kernel)
  have selected : pairPlan.selected (some pairDatabase) = ["r"] := by decide +kernel
  have announced : ∀ row ∈ pairDatabase.assets.rows,
      (pairPlan.announced? pairDatabase "r" row).isSome := by decide +kernel
  have permitted : pairDatabase.Permits "r" := by decide +kernel
  have legible : pairPlan.Legible pairDatabase "r" := by
    intro row member _
    obtain ⟨told, found⟩ := Option.isSome_iff_exists.mp (announced row member)
    obtain ⟨asset, announcement, read, announced, -⟩ := announced?_eq_some_iff.mp found
    exact ⟨asset, announcement, read, announced⟩
  have room : pairDatabase.HasRoom "r" := by
    intro row member _
    rw [List.mem_singleton.mp member]
    refine ⟨1, rfl, fun count some_ least => ?_⟩
    obtain rfl | rfl : count = 1 ∨ count = 2 := by
      have two : pairDatabase.assets.rows.length = 2 := rfl
      omega
    all_goals decide
  have passable := passable_of_legible tarballReader_faithful legible room (by decide) (by decide)
    permitted
  obtain ⟨orders, numbers⟩ := @repair_any_order pairPlan rfl
  refine ⟨?_, ?_, ?_⟩
  · obtain ⟨assets, _, _, _, read, _⟩ := passable
    have length : (assetsOf pairDatabase "r").toOption.map List.length = some 2 := by
      decide +kernel
    rw [read] at length
    obtain ⟨first, second, rfl⟩ := List.length_eq_two.mp (Option.some.inj length)
    exact ⟨first, second, read, (orders (.swap second first []) tagged (distinct.pairwise read)).2⟩
  · have free : (Premises.mk (some pairDatabase) .free).lock = .free := rfl
    have found : browse (some pairDatabase) = .ok [⟨"r", "npm", .hosted⟩] := by decide +kernel
    refine (completes_iff_succeed tarballReader_faithful free found).mpr fun name member => ?_
    obtain ⟨-, rfl⟩ : _ ∧ "r" = name := by simpa [Plan.select] using member
    exact (succeeds_iff_passable tarballReader_faithful (by decide) (by decide)).mpr passable
  · refine numbers (by decide) .free (by decide) (by decide) (by decide) tagged ?_
    rw [selected]
    simpa using distinct

end RegistryMend.Repair
