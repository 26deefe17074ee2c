import RegistryMend.Proofs.Repair.Commuting
import RegistryMend.Proofs.Repair.Keeping
import RegistryMend.Proofs.Repair.Rollback
import RegistryMend.Proofs.Storage.Repositories

/-! # Repositories do not interfere

The repair of a repository reads and writes its own package roots alone: it does the same in a
database that has no others. So it does in a pass, whatever happened to the repositories before it,
and what it leaves is not touched by those behind it.
-/

namespace RegistryMend.Repair

open RegistryMend.Storage (Blob Database RootKey UnitOfWork databaseRoots)

/-! ## The repair of one repository -/

section

variable (plan : Plan) (repository : String)

theorem ignores_only : Ignores databaseRoots repository (UnitOfWork.only repository) where
  get id unit := by
    change (unit.only repository).current.keyFor repository id >>= _ =
      unit.current.keyFor repository id >>= _
    rw [UnitOfWork.current_only]
    change unit.current.keyFor repository id >>= _ = _
    cases keyed : unit.current.keyFor repository id with
    | error failure => rfl
    | ok key =>
      obtain ⟨rfl, -⟩ := Database.keyFor_eq_ok_iff.mp keyed
      exact Database.getRoot_only ..
  put id expected root unit := by
    change ((unit.only repository).current.keyFor repository id >>= fun key =>
        (unit.only repository).current.putRoot key expected root >>= _) =
      (unit.current.keyFor repository id >>= fun key =>
        unit.current.putRoot key expected root >>= _).map _
    rw [UnitOfWork.current_only]
    change unit.current.keyFor repository id >>= _ = _
    cases keyed : unit.current.keyFor repository id with
    | error failure => rfl
    | ok key =>
      obtain ⟨rfl, -⟩ := Database.keyFor_eq_ok_iff.mp keyed
      change (unit.current.only key.1).putRoot key expected root >>= _ =
        (unit.current.putRoot key expected root >>= _).map _
      rw [Database.putRoot_only key.1 unit.current key.2]
      cases unit.current.putRoot key expected root with
      | error failure => rfl
      | ok db => exact congrArg Except.ok (unit.write_only key.1 db)

theorem processAsset_commutes (asset : Asset) :
    Work.Commutes (UnitOfWork.only repository) (processAsset plan repository asset) := by
  unfold processAsset
  split
  · exact Work.commutes_pure _ _
  · refine Work.commutes_store_bind (fun unit => ?_) fun unit =>
      (Work.commutes_ofExcept _ _).bind fun found => ?_
    · rw [UnitOfWork.current_only]
      rfl
    · cases found with
      | none => exact (Work.commutes_report _ _).bind fun _ => Work.commutes_pure _ _
      | some blob => exact reconcile_commutes (ignores_only repository) plan.reader asset blob

theorem processAssets_commutes (assets : List Asset) :
    Work.Commutes (UnitOfWork.only repository) (processAssets plan repository assets) := by
  induction assets with
  | nil => exact Work.commutes_pure _ _
  | cons asset rest ih =>
    exact (processAsset_commutes plan repository asset).bind fun _ =>
      ih.bind fun _ => Work.commutes_pure _ _

theorem batchWork_commutes (cursor : Cursor) :
    Work.Commutes (UnitOfWork.only repository) (batchWork plan repository cursor) := by
  refine Work.commutes_store_bind (fun unit => ?_) fun unit =>
    (Work.commutes_ofExcept _ _).bind fun assets =>
      (processAssets_commutes plan repository assets).bind fun _ => Work.commutes_pure _ _
  rw [UnitOfWork.current_only]
  rfl

/-- A transaction is closed on the rows of one repository as on all. -/
theorem closeTransaction_only {α : Type} (result : Except Failure α) (unit : UnitOfWork) :
    closeTransaction result (unit.only repository) =
      (closeTransaction result unit).only repository := by
  cases result with
  | error failure => rfl
  | ok a => exact UnitOfWork.current_only repository unit

theorem processBatch_commutes (cursor : Cursor) :
    Work.Commutes (Database.only repository) (processBatch plan repository cursor) := by
  refine (Work.commutes_report _ _).bind fun _ => Work.Commutes.adapt _ ?_
  exact (batchWork_commutes plan repository cursor).within (fun _ => rfl)
    fun _ result unit => closeTransaction_only repository result unit

theorem runBatches_commutes (fuel : Nat) (cursor : Cursor) (tally : Tally) :
    Work.Commutes (Database.only repository) (runBatches plan repository fuel cursor tally) := by
  induction fuel generalizing cursor tally with
  | zero => exact Work.commutes_pure _ _
  | succ fuel ih =>
    refine (processBatch_commutes plan repository cursor).bind fun result => ?_
    split
    · exact Work.commutes_pure _ _
    · exact ih _ _

/-- The repair of a repository does the same without the roots of the others. -/
theorem repairRepository_commutes :
    Work.Commutes (Database.only repository) (repairRepository plan repository) :=
  Work.commutes_store_bind (fun _ => rfl) fun _ =>
    (runBatches_commutes plan repository _ _ _).bind fun _ =>
      (Work.commutes_report _ _).bind fun _ => Work.commutes_pure _ _

end

/-! ## Alone and after others -/

/-- The repair of a repository alone. -/
def Plan.alone (plan : Plan) (db : Database) (repository : String) :
    Except Failure Tally × Session Database :=
  (repairRepository plan repository).runIn ⟨db, #[], 0⟩

/-- A repository has the rows that its repair alone leaves. If that fails, they are the rows that
the batches before the failing one left. -/
structure Plan.AsAlone (plan : Plan) (db after : Database) (repository : String) : Prop where
  rows : after.rootsOf repository = (plan.alone db repository).2.store.rootsOf repository
  committed : ∀ failure, (plan.alone db repository).1 = .error failure → ∃ count tally,
    let batches := (runBatches plan repository count .beginning {}).runIn ⟨db, #[], 0⟩
    batches.1 = .ok tally ∧ tally.batches = count ∧
      after.rootsOf repository = batches.2.store.rootsOf repository

section

variable {plan : Plan} {repository : String} {db after : Database} {final : Except Failure Tally}
  {events : Array Event}

/-- The batches of a repository are its repair alone. -/
theorem BatchRuns.alone
    (batches : BatchRuns plan repository (batchBound db) .beginning {} db final after events) :
    (plan.alone db repository).1 = final ∧ (plan.alone db repository).2.store = after := by
  obtain ⟨result, store, -⟩ : (plan.alone db repository).1 = final ∧
      (plan.alone db repository).2.store = after ∧ _ := batches.runs_repair.seen
  exact ⟨result, store⟩

theorem BatchRuns.asAlone (faithful : ManifestReader.Faithful plan.reader)
    (batches : BatchRuns plan repository (batchBound db) .beginning {} db final after events) :
    plan.AsAlone db after repository := by
  obtain ⟨result, store⟩ := batches.alone
  refine ⟨by rw [store], fun failure failed => ?_⟩
  obtain rfl := result.symm.trans failed
  obtain ⟨count, _, reached, _, _, _, _, _, advance, -⟩ := batches.advance faithful
  obtain ⟨ended, left, -⟩ :
      let run := (runBatches plan repository count .beginning {}).runIn ⟨db, #[], 0⟩
      run.1 = .ok reached ∧ run.2.store = after ∧ _ := advance.batches.runs.seen
  exact ⟨count, reached, ended, advance.counted.trans (Nat.zero_add count), by rw [left]⟩

/-- Work on the rows of a repository alone does the same where these are the same. -/
theorem seen_alike {α : Type} {work : Work Database α}
    (commutes : Work.Commutes (Database.only repository) work) {other : Database}
    (frame : ∃ roots, other = db.withRoots roots)
    (same : other.rootsOf repository = db.rootsOf repository) :
    (work.runIn ⟨other, #[], 0⟩).1 = (work.runIn ⟨db, #[], 0⟩).1 ∧
      (work.runIn ⟨other, #[], 0⟩).2.store.rootsOf repository =
        (work.runIn ⟨db, #[], 0⟩).2.store.rootsOf repository := by
  obtain ⟨roots, rfl⟩ := frame
  have both : Session.map (Database.only repository) ⟨db.withRoots roots, #[], 0⟩ =
      Session.map (Database.only repository) ⟨db, #[], 0⟩ :=
    congrArg (Session.mk · #[] 0) (Database.only_withRoots same)
  have run := commutes ⟨db.withRoots roots, #[], 0⟩
  rw [both, commutes ⟨db, #[], 0⟩] at run
  exact ⟨(congrArg Prod.fst run).symm, (congrArg (fun run => run.2.store.roots.rows) run).symm⟩

/-- What is as after a repair alone is so for every database where the repository has the same
rows. -/
theorem Plan.AsAlone.of_same {other : Database} (asAlone : plan.AsAlone other after repository)
    (frame : ∃ roots, other = db.withRoots roots)
    (same : other.rootsOf repository = db.rootsOf repository) :
    plan.AsAlone db after repository := by
  obtain ⟨result, rows⟩ := seen_alike (repairRepository_commutes plan repository) frame same
  refine ⟨asAlone.rows.trans rows, fun failure failed => ?_⟩
  obtain ⟨count, tally, ended, counted, left⟩ := asAlone.committed failure (result.trans failed)
  obtain ⟨result_, rows_⟩ := seen_alike
    (runBatches_commutes plan repository count .beginning {}) frame same
  exact ⟨count, tally, result_.symm.trans ended, counted, left.trans rows_⟩

/-- The repair of some repositories leaves the rows of all others. -/
theorem rootsOf_kept (plan : Plan) (names : List String) : plan.Kept names fun db after =>
    (∃ roots, after = db.withRoots roots) ∧
      ∀ other ∉ names, after.rootsOf other = db.rootsOf other where
  refl db := ⟨⟨db.roots, rfl⟩, fun _ _ => rfl⟩
  trans := by
    rintro first _ _ ⟨⟨_, rfl⟩, one⟩ ⟨⟨roots, rfl⟩, two⟩
    exact ⟨⟨roots, rfl⟩, fun other member => (two other member).trans (one other member)⟩
  visit chosen _ visit := by
    refine ⟨visit.frame, fun other member => ?_⟩
    cases visit with
    | mended =>
      refine Database.rootsOf_written _ ?_
      rintro rfl
      exact member chosen
    | _ => rfl

end

/-! ## Passes -/

/-- Some repositories have the rows that their repairs alone leave, and all others those they had. -/
structure Plan.Apart (plan : Plan) (db after : Database) (names : List String) : Prop where
  repaired : ∀ name ∈ names, plan.AsAlone db after name
  others : ∀ other ∉ names, after.rootsOf other = db.rootsOf other

/-- The repair of a repository alone succeeds. -/
def Plan.Succeeds (plan : Plan) (db : Database) (name : String) : Prop :=
  ∃ tally, (plan.alone db name).1 = .ok tally

section

variable {plan : Plan} {db after : Database} {events : Array Event}

/-- A repository and then others are repaired as if each was alone. -/
theorem BatchRuns.apart (faithful : ManifestReader.Faithful plan.reader) {name : String}
    {rest : List String} {middle : Database} {final : Except Failure Tally}
    (first : BatchRuns plan name (batchBound db) .beginning {} db final middle events)
    (fresh : name ∉ rest) (later : plan.Apart middle after rest) : plan.Apart db after (name :: rest) := by
  obtain ⟨frame, others⟩ := first.keeps (rootsOf_kept plan [name]) (List.mem_singleton_self name)
  constructor
  · intro other member
    rcases List.mem_cons.mp member with rfl | member
    · have own := first.asAlone faithful
      have same := later.others other fresh
      exact ⟨same.trans own.rows, fun failure failed => by
        obtain ⟨count, tally, ended, counted, left⟩ := own.committed failure failed
        exact ⟨count, tally, ended, counted, same.trans left⟩⟩
    · refine (later.repaired other member).of_same frame (others other ?_)
      rintro same
      rw [List.mem_singleton.mp same] at member
      exact fresh member
  · intro other member
    rw [List.mem_cons, not_or] at member
    exact (later.others other member.2).trans (others other (by simpa using member.1))

theorem apart_nil (plan : Plan) (db : Database) : plan.Apart db db [] where
  repaired _ member := absurd member List.not_mem_nil
  others _ _ := rfl

/-- A pass that isolates failures ends well, and all repositories are as if repaired alone. -/
theorem RepositoryRuns.apart_of_isolated (faithful : ManifestReader.Faithful plan.reader)
    (isolates : plan.isolateFailures = true) {names : List String} (distinct : names.Nodup)
    {result : Except Failure Unit} (runs : RepositoryRuns plan names db result after events) :
    result = .ok () ∧ plan.Apart db after names := by
  induction runs with
  | nil => exact ⟨rfl, apart_nil plan _⟩
  | stop strict =>
    rw [isolates] at strict
    cases strict
  | skip _ first _ ih | next first _ ih =>
    rw [List.nodup_cons] at distinct
    obtain ⟨ended, apart⟩ := ih distinct.2
    exact ⟨ended, first.apart faithful distinct.1 apart⟩

/-- How a pass ends that does not isolate failures: all repairs succeed, or it stops at the first that
fails alone. -/
inductive Plan.EndsStrictly (plan : Plan) (db after : Database) (names : List String) :
    Except Failure Unit → Prop
  | completed (succeed : ∀ name ∈ names, plan.Succeeds db name)
      (apart : plan.Apart db after names) : EndsStrictly plan db after names (.ok ())
  | stopped {before later : List String} {name : String} {failure : Failure}
      (split : names = before ++ name :: later)
      (succeed : ∀ earlier ∈ before, plan.Succeeds db earlier)
      (failed : (plan.alone db name).1 = .error failure)
      (apart : plan.Apart db after (before ++ [name])) :
      EndsStrictly plan db after names (.error failure)

/-- The repair alone of a repository ends as in another database where it has the same rows. -/
theorem ends_alike {middle : Database} (frame : ∃ roots, middle = db.withRoots roots) {name : String}
    (same : middle.rootsOf name = db.rootsOf name) :
    (plan.alone middle name).1 = (plan.alone db name).1 :=
  (seen_alike (repairRepository_commutes plan name) frame same).1

/-- The repair alone of a repository ends the same behind the repair of another one. -/
theorem BatchRuns.ends_behind {repository name : String} {middle : Database}
    {final : Except Failure Tally}
    (first : BatchRuns plan repository (batchBound db) .beginning {} db final middle events)
    (apart : name ≠ repository) : (plan.alone middle name).1 = (plan.alone db name).1 := by
  obtain ⟨frame, others⟩ :=
    first.keeps (rootsOf_kept plan [repository]) (List.mem_singleton_self repository)
  exact ends_alike frame (others name fun same => apart (List.mem_singleton.mp same))

theorem RepositoryRuns.endsStrictly (faithful : ManifestReader.Faithful plan.reader)
    (strict : plan.isolateFailures = false) {names : List String} (distinct : names.Nodup)
    {result : Except Failure Unit} (runs : RepositoryRuns plan names db result after events) :
    plan.EndsStrictly db after names result := by
  induction runs with
  | nil => exact .completed (fun _ member => absurd member List.not_mem_nil) (apart_nil plan _)
  | @stop repository rest db after failure _ _ first =>
    exact .stopped (List.nil_append _).symm (fun _ member => absurd member List.not_mem_nil)
      first.alone.1 (first.apart faithful List.not_mem_nil (apart_nil plan after))
  | skip isolates =>
    rw [strict] at isolates
    cases isolates
  | @next repository rest db middle after tally result _ _ first later ih =>
    rw [List.nodup_cons] at distinct
    have succeeds : plan.Succeeds db repository := ⟨tally, first.alone.1⟩
    have alike {name : String} (member : name ∈ rest) :
        (plan.alone middle name).1 = (plan.alone db name).1 :=
      first.ends_behind fun same => distinct.1 (same ▸ member)
    cases ih distinct.2 with
    | completed succeed apart =>
      refine .completed (fun name member => ?_) (first.apart faithful distinct.1 apart)
      rcases List.mem_cons.mp member with rfl | member
      · exact succeeds
      · rw [Plan.Succeeds, ← alike member]
        exact succeed name member
    | @stopped before later_ name failure split succeed failed apart =>
      subst split
      refine .stopped (List.cons_append ..).symm (fun name member => ?_)
        ((alike (by simp)).symm.trans failed) (first.apart faithful ?_ apart)
      · rcases List.mem_cons.mp member with rfl | member
        · exact succeeds
        · rw [Plan.Succeeds, ← alike (List.mem_append_left _ member)]
          exact succeed name member
      · intro member
        refine distinct.1 (List.mem_append.mpr ?_)
        rcases List.mem_append.mp member with member | same
        · exact .inl member
        · exact .inr (by simpa using .inl (List.mem_singleton.mp same))

end

/-- The rows of the repositories are in the order of their names, which are distinct. -/
theorem repositoryRows_increasing {db : Database} {rows : List Storage.RepositoryRow}
    (read : db.repositoryRows = .ok rows) : rows.Pairwise (·.name < ·.name) := by
  rw [Database.repositoryRows, Database.require] at read
  split at read
  · cases read
    have ordered : (db.repositories.rows.mergeSort fun a b => decide (a.name ≤ b.name)).Pairwise
        fun a b => decide (a.name ≤ b.name) = true := by
      refine List.pairwise_mergeSort (fun a b c first second => ?_) (fun a b => ?_) _
      · rw [decide_eq_true_eq] at first second ⊢
        exact String.le_trans first second
      · rw [Bool.or_eq_true, decide_eq_true_eq, decide_eq_true_eq]
        exact String.le_total a.name b.name
    have distinct : (db.repositories.rows.mergeSort fun a b => decide (a.name ≤ b.name)).Pairwise
        fun a b => a.name ≠ b.name :=
      List.pairwise_map.mp ((List.mergeSort_perm ..).map _ |>.nodup_iff.mpr db.repositories.distinct)
    refine (ordered.and distinct).imp fun {a b} both => String.not_le.mp fun back => ?_
    exact both.2 (String.le_antisymm (of_decide_eq_true both.1) back)
  · cases read

/-- The selected repositories are in the order of their names, each of them once. -/
theorem select_increasing {plan : Plan} {database : Option Database}
    {repositories : List Repository} (found : browse database = .ok repositories) :
    (plan.select repositories).Pairwise (· < ·) := by
  suffices increasing : repositories.Pairwise (·.name < ·.name) from
    List.pairwise_map.mpr (increasing.sublist List.filter_sublist)
  cases database with
  | none =>
    cases found
    exact .nil
  | some db =>
    rw [browse] at found
    split at found
    · cases found
    · next rows read =>
      cases found
      refine (repositoryRows_increasing read).filterMap _ fun row other order => ?_
      intro repository given repository_ given_
      obtain ⟨_, -, rfl⟩ := Option.map_eq_some_iff.mp given
      obtain ⟨_, -, rfl⟩ := Option.map_eq_some_iff.mp given_
      exact order

theorem nodup_select {plan : Plan} {database : Option Database} {repositories : List Repository}
    (found : browse database = .ok repositories) : (plan.select repositories).Nodup :=
  (select_increasing found).imp
    fun {a b} (order : a < b) (same : a = b) => String.lt_irrefl b (same ▸ order)

/-- A pass that takes the lock gives it back, however it ends. If the repositories can be read, each
of those that it repairs has the rows that its repair alone leaves, and all others keep theirs. If
failures are isolated, these are all of the selected ones and the pass does not fail; otherwise it
stops with the failure of the first that fails alone. -/
theorem repair_keeps_apart {plan : Plan} (tarballs : plan.reader = tarballReader)
    {session : Session Premises} (free : session.store.lock = .free) :
    let db := session.store.opened
    let run := (repair plan).runIn session
    let after := run.2.store.opened
    run.2.store.lock = .free ∧
    ∀ repositories, browse session.store.database = .ok repositories →
      (plan.select repositories).Pairwise (· < ·) ∧
      (plan.isolateFailures = true →
        run.1 = .ok () ∧ plan.Apart db after (plan.select repositories)) ∧
      (plan.isolateFailures = false →
        plan.EndsStrictly db after (plan.select repositories) run.1) := by
  have faithful : ManifestReader.Faithful plan.reader := tarballs ▸ tarballReader_faithful
  obtain ⟨result, last, events, runs, pass⟩ := exists_passRun plan session.store
  obtain ⟨ended, stored, -⟩ := runs.seen
  intro db run after
  have ended_ : run.1 = result := ended
  have stored_ : run.2.store = last := stored
  have after_ : after = last.opened := congrArg Premises.opened stored
  rw [ended_, stored_, after_]
  cases pass with
  | skipped taken => exact absurd free taken
  | unread _ found =>
    refine ⟨rfl, fun repositories found_ => ?_⟩
    rw [found] at found_
    cases found_
  | @repaired repositories _ _ _ _ found released each =>
    refine ⟨released, fun repositories_ found_ => ?_⟩
    obtain rfl : repositories = repositories_ := Except.ok.inj (found.symm.trans found_)
    have increasing := @select_increasing plan _ _ found
    have distinct : (plan.select repositories).Nodup := increasing.imp
      fun {a b} (order : a < b) (same : a = b) => String.lt_irrefl b (same ▸ order)
    exact ⟨increasing, fun isolates => each.apart_of_isolated faithful isolates distinct,
      fun strict => each.endsStrictly faithful strict distinct⟩

/-- Two repositories, of which the first has an empty tarball and the second the stale root. -/
def brokenDatabase : Database :=
  { spoiltDatabase with
    repositories := ⟨[⟨"q", "npm", "hosted"⟩, ⟨"r", "npm", "hosted"⟩], by decide⟩
    assets := ⟨[⟨1, "q", "a-2.tgz", some "c", "\x7b\"asset_kind\":\"TARBALL\"\x7d"⟩,
      ⟨2, "r", "a-1.tgz", some "b", "\x7b\"asset_kind\":\"TARBALL\"\x7d"⟩], by decide⟩ }

/-- The repair of the first repository fails, and the root in the second one is corrected. -/
theorem repair_keeps_apart_broken :
    let plan := { spoiltPlan with isolateFailures := true }
    let run := (repair plan).runIn ⟨{ database := some brokenDatabase }, #[], 0⟩
    (plan.alone brokenDatabase "q").1 =
        .error (.manifest (.unreadable (.archive .unreadable)) none) ∧
      (plan.alone brokenDatabase "r").1 = .ok ⟨1, 1, 1⟩ ∧
      run.1 = .ok () ∧ run.2.store.lock = .free ∧
      plan.AsAlone brokenDatabase run.2.store.opened "r" := by
  intro plan run
  have alone : ({ spoiltPlan with isolateFailures := true }.alone brokenDatabase "q").1 =
        .error (.manifest (.unreadable (.archive .unreadable)) none) ∧
      ({ spoiltPlan with isolateFailures := true }.alone brokenDatabase "r").1 = .ok ⟨1, 1, 1⟩ := by
    decide +kernel
  have listed : browse (some brokenDatabase) =
      .ok [⟨"q", "npm", .hosted⟩, ⟨"r", "npm", .hosted⟩] := by
    have sorted : (brokenDatabase.repositories.rows.mergeSort fun a b =>
        decide (a.name ≤ b.name)) = brokenDatabase.repositories.rows :=
      List.mergeSort_of_pairwise (by decide)
    rw [browse, Database.repositoryRows, sorted]
    decide +kernel
  obtain ⟨released, apart⟩ :=
    @repair_keeps_apart plan rfl ⟨{ database := some brokenDatabase }, #[], 0⟩ rfl
  obtain ⟨-, isolated, -⟩ := apart _ listed
  obtain ⟨ended, others⟩ := isolated rfl
  exact ⟨alone.1, alone.2, ended, released, others.repaired "r" (by decide)⟩

end RegistryMend.Repair
