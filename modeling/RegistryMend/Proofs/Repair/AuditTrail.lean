import RegistryMend.Proofs.Repair.Paging
import RegistryMend.Proofs.Repair.WholePasses

/-! # The audit trail against the database

A correction is reported within its batch. If the batch fails later on, the correction is rolled
back, but its report stays. What was reported is therefore what the revisions grew by, and what was
lost in this way, which can be told from the events alone.
-/

namespace RegistryMend.Repair

open RegistryMend.Storage (Database RootKey)

/-! ## Ledgers -/

/-- What events tell about the corrections of a root. -/
structure Ledger where
  /-- The corrections in the batch at hand. -/
  pending : Nat := 0
  /-- The corrections in batches that failed. -/
  lost : Nat := 0
deriving DecidableEq, Repr

/-- Whether an event says that a repository failed, and with it its last batch. -/
def Event.failsRepository : Event → Bool
  | repositoryFailed .. => true
  | _ => false

namespace Ledger

/-- Reads on. What does not concern an asset ends the batch at hand. -/
def enter (key : RootKey) (ledger : Ledger) (event : Event) : Ledger :=
  if event.concernsAsset then
    { ledger with pending := ledger.pending + if event.corrects key then 1 else 0 }
  else if event.failsRepository then ⟨0, ledger.lost + ledger.pending⟩
  else ⟨0, ledger.lost⟩

/-- An event that is neither about an asset nor a failure settles what was pending. -/
theorem enter_general (key : RootKey) (ledger : Ledger) {event : Event}
    (general : event.concernsAsset = false) (sound : event.failsRepository = false) :
    ledger.enter key event = ⟨0, ledger.lost⟩ := by
  rw [enter, if_neg (Bool.eq_false_iff.mp general), if_neg (Bool.eq_false_iff.mp sound)]

/-- Reads events one after the other. -/
def read (key : RootKey) (ledger : Ledger) (events : Array Event) : Ledger :=
  events.toList.foldl (enter key) ledger

@[simp] theorem read_singleton (key : RootKey) (ledger : Ledger) (event : Event) :
    ledger.read key #[event] = ledger.enter key event := rfl

@[simp] theorem read_append (key : RootKey) (ledger : Ledger) (first second : Array Event) :
    ledger.read key (first ++ second) = (ledger.read key first).read key second := by
  rw [read, read, read, Array.toList_append, List.foldl_append]

/-- Events about assets leave the batch open. -/
theorem read_told {key : RootKey} {told : Array Event}
    (concerns : ∀ event ∈ told, event.concernsAsset = true) (ledger : Ledger) :
    ledger.read key told = ⟨ledger.pending + corrections key told, ledger.lost⟩ := by
  rw [read, corrections, ← Array.countP_toList]
  replace concerns : ∀ event ∈ told.toList, event.concernsAsset = true :=
    fun event member => concerns event (Array.mem_def.mpr member)
  generalize told.toList = told at concerns ⊢
  induction told generalizing ledger with
  | nil => rfl
  | cons event rest ih =>
    have rest_ := fun other member => concerns other (List.mem_cons_of_mem _ member)
    rw [List.foldl_cons, ih _ rest_, enter, if_pos (concerns event (List.mem_cons_self ..)),
      List.countP_cons, Nat.add_assoc, Nat.add_comm (List.countP ..)]

/-- How many corrections are lost if a run ends in this way after the ledger. -/
def lostAt {α : Type} (ledger : Ledger) : Except Failure α → Nat
  | .ok _ => ledger.lost
  | .error _ => ledger.lost + ledger.pending

end Ledger

/-- How many of the reported corrections of a root were rolled back, as the events and the end of a
run tell. -/
def lostCorrections {α : Type} (key : RootKey) (result : Except Failure α) (events : Array Event) :
    Nat :=
  (Ledger.read key {} events).lostAt result

/-- From one revision of a root to another one it grew by the corrections that were reported and not
lost, whatever was reported before. -/
def Accounts {α : Type} (key : RootKey) (before after : Int) (result : Except Failure α)
    (events : Array Event) : Prop :=
  ∀ ledger : Ledger,
    after + (ledger.read key events).lostAt result = before + corrections key events + ledger.lost

section

variable {α β : Type} {key : RootKey} {before middle after : Int} {events others : Array Event}

/-- Accounts go on after a success. -/
theorem Accounts.append {a : α} {result : Except Failure β}
    (first : Accounts key before middle (.ok a : Except Failure α) events)
    (second : Accounts key middle after result others) :
    Accounts key before after result (events ++ others) := by
  intro ledger
  have one := first ledger
  have two := second (ledger.read key events)
  rw [Ledger.lostAt] at one
  rw [Ledger.read_append, corrections_append]
  push_cast
  omega

/-- Nothing reported, nothing changed. -/
theorem accounts_empty (revision : Int) (a : α) :
    Accounts key revision revision (.ok a : Except Failure α) #[] := by
  intro ledger
  rw [corrections_empty, Int.natCast_zero, Int.add_zero]
  rfl

/-- An event that is not about an asset corrects nothing. -/
theorem corrections_general {event : Event} (general : event.concernsAsset = false)
    (key : RootKey) : corrections key #[event] = 0 := by
  rw [corrections_singleton]
  cases event <;> first | rfl | cases general

/-- Reports that are neither about assets nor failures of repositories lose nothing. -/
theorem accounts_report (event : Event) (general : event.concernsAsset = false)
    (sound : event.failsRepository = false) (key : RootKey) (revision : Int)
    (result : Except Failure α) : Accounts key revision revision result #[event] := by
  intro ledger
  rw [Ledger.read_singleton, Ledger.enter_general key ledger general sound,
    corrections_general general key]
  cases result <;> simp [Ledger.lostAt]

/-- The report that a repository failed counts as lost what was pending. -/
theorem Accounts.failed {failure : Failure}
    (accounts : Accounts key before after (.error failure : Except Failure α) events)
    (repository : String) (b : β) :
    Accounts key before after (.ok b : Except Failure β)
      (events ++ #[.repositoryFailed repository failure]) := by
  intro ledger
  have one := accounts ledger
  have none_ : corrections key #[.repositoryFailed repository failure] = 0 :=
    corrections_general rfl key
  rw [Ledger.read_append, Ledger.read_singleton, corrections_append, none_]
  exact one

end

/-! ## Batches -/

section

variable {plan : Plan} {repository : String} {fuel : Nat} {cursor : Cursor} {tally : Tally}
  {db after : Database} {events : Array Event}

/-- A batch that begins settles what was pending. -/
theorem read_opening (key : RootKey) (ledger : Ledger) (plan : Plan) (cursor : Cursor) :
    ledger.read key #[plan.opening cursor] = ⟨0, ledger.lost⟩ := rfl

theorem BatchRun.accounts (faithful : ManifestReader.Faithful plan.reader)
    {result : Except Failure BatchResult}
    (batch : BatchRun plan repository cursor db result after events) (key : RootKey) :
    Accounts key (db.revision key) (after.revision key) result events := by
  intro ledger
  have opened : corrections key #[plan.opening cursor] = 0 := corrections_general rfl key
  cases batch with
  | completed read visits =>
    rw [Ledger.read_append, read_opening, Ledger.read_told (visits.concerns faithful),
      corrections_append, opened, Ledger.lostAt, visits.revision faithful key, Nat.zero_add]
  | unread read =>
    rw [read_opening, opened, Ledger.lostAt]
    simp
  | stopped read visits =>
    rw [Ledger.read_append, read_opening, Ledger.read_told (visits.concerns faithful),
      corrections_append, opened, Ledger.lostAt]
    push_cast
    omega

theorem BatchRuns.accounts (faithful : ManifestReader.Faithful plan.reader)
    {final : Except Failure Tally}
    (batches : BatchRuns plan repository fuel cursor tally db final after events) (key : RootKey) :
    Accounts key (db.revision key) (after.revision key) final events := by
  induction batches with
  | spent => exact accounts_empty _ _
  | failed first => exact first.accounts faithful key
  | last first ends => exact first.accounts faithful key
  | next first goes later ih => exact (first.accounts faithful key).append ih

theorem BatchRuns.accounts_repair (faithful : ManifestReader.Faithful plan.reader)
    {final : Except Failure Tally}
    (batches : BatchRuns plan repository fuel cursor tally db final after events) (key : RootKey) :
    Accounts key (db.revision key) (after.revision key) final
      (events ++ plan.closing repository final) := by
  have accounts := batches.accounts faithful key
  cases final with
  | ok tally_ =>
    exact accounts.append (accounts_report _ rfl rfl key (after.revision key) (.ok tally_))
  | error failure =>
    rw [Plan.closing, Array.append_empty]
    exact accounts

end

/-! ## Passes -/

/-- Work that accounts for every root, however it ends. -/
def Audited {α : Type} (work : Work Premises α) : Prop :=
  ∀ premises, ∃ result after events, Work.Runs work premises result after events ∧
    ∀ key, Accounts key (premises.opened.revision key) (after.opened.revision key) result events

section

variable {plan : Plan}

/-- Repositories that are repaired one after the other account for every root. -/
theorem RepositoryRuns.accounts (faithful : ManifestReader.Faithful plan.reader)
    {names : List String} {db after : Database} {result : Except Failure Unit}
    {events : Array Event} (runs : RepositoryRuns plan names db result after events)
    (key : RootKey) : Accounts key (db.revision key) (after.revision key) result events := by
  induction runs with
  | nil => exact accounts_empty _ ()
  | @stop repository _ _ _ failure _ _ first =>
    have accounts := first.accounts_repair faithful key
    rw [Plan.closing, Array.append_empty] at accounts
    exact accounts
  | @skip repository _ _ _ _ failure _ _ _ _ first _ ih =>
    have accounts := first.accounts_repair faithful key
    rw [Plan.closing, Array.append_empty] at accounts
    exact (accounts.failed repository ()).append ih
  | next first _ ih => exact (first.accounts_repair faithful key).append ih

/-- A pass begins with a report, so that nothing is pending if the repositories cannot be read. -/
theorem PassRun.accounts (faithful : ManifestReader.Faithful plan.reader)
    {premises after : Premises} {result : Except Failure Unit} {events : Array Event}
    (run : PassRun plan premises result after events) (key : RootKey) :
    Accounts key (premises.opened.revision key) (after.opened.revision key) result events := by
  have settled (result : Except Failure Unit) :=
    accounts_report (.passBegun plan.format) rfl rfl key (premises.opened.revision key) result
  cases run with
  | skipped => exact accounts_report .passSkipped rfl rfl key _ _
  | unread => exact settled _
  | @repaired _ result after events _ _ _ runs =>
    refine (settled (.ok ())).append ?_
    have accounts := runs.accounts faithful key
    cases result with
    | ok _ => exact accounts.append (accounts_report _ rfl rfl key _ (.ok ()))
    | error failure =>
      rw [completion, Array.append_empty]
      exact accounts

theorem repair_audited (faithful : ManifestReader.Faithful plan.reader) :
    Audited (repair plan) := by
  intro premises
  obtain ⟨result, after, events, runs, run⟩ := exists_passRun plan premises
  exact ⟨result, after, events, runs, run.accounts faithful⟩

end

/-- However a repair ends, the corrections of a root that it reports are what the revision of the root
grew by, and what was lost with failed batches. They are just the former if nothing was lost. -/
theorem corrections_repair {plan : Plan} (tarballs : plan.reader = tarballReader)
    (session : Session Premises) (key : RootKey) :
    let run := (repair plan).runIn session
    let grown := run.2.store.opened.revision key - session.store.opened.revision key
    ∃ events, run.2.events = session.events ++ events ∧
      corrections key events = grown + lostCorrections key run.1 events ∧
      (corrections key events = grown ↔ lostCorrections key run.1 events = 0) := by
  intro run grown
  have faithful : ManifestReader.Faithful plan.reader := tarballs ▸ tarballReader_faithful
  obtain ⟨result, after, events, runs, accounts⟩ := repair_audited faithful session.store
  obtain ⟨ended, stored, reported⟩ : run.1 = result ∧ run.2.store = after ∧
      run.2.events = session.events ++ events := runs.seen
  have grown_ : grown = after.opened.revision key - session.store.opened.revision key := by
    rw [← stored]
  have account := accounts key {}
  have whole : (corrections key events : Int) = grown + lostCorrections key run.1 events := by
    have none_ : ((({} : Ledger).lost : Nat) : Int) = 0 := rfl
    rw [ended, lostCorrections, grown_]
    omega
  exact ⟨events, reported, whole, by omega⟩

/-- The database with the stale root and one repository, which has a second tarball. -/
def spoiltDatabase : Database :=
  { staleDatabase with
    repositories := ⟨[⟨"r", "npm", "hosted"⟩], by decide⟩
    blobs := ⟨[⟨"b", "new", .integer 553⟩, ⟨"c", "new", .integer 0⟩], by decide⟩
    assets := ⟨[⟨1, "r", "a-1.tgz", some "b", "\x7b\"asset_kind\":\"TARBALL\"\x7d"⟩,
      ⟨2, "r", "a-2.tgz", some "c", "\x7b\"asset_kind\":\"TARBALL\"\x7d"⟩], by decide⟩ }

/-- A repair with the second tarball empty. -/
def spoiltPlan : Plan :=
  { stalePlan with
    files := ⟨(["data", "blobs", "c"], .directory) :: (["data", "blobs", "c", "c"], .file []) ::
      staleFiles.nodes⟩ }

/-- The state before the repair. -/
def spoiltSession : Session Premises := ⟨{ database := some spoiltDatabase }, #[], 0⟩

/-- The batch corrects the root for the first tarball and fails at the second one. Its report is
kept, the correction is not. -/
theorem corrections_repair_spoilt :
    let run := (repair spoiltPlan).runIn spoiltSession
    corrections ("r", "a") run.2.events = 1 ∧ run.2.store.opened.revision ("r", "a") = 1 ∧
      spoiltSession.store.opened.revision ("r", "a") = 1 ∧
      lostCorrections ("r", "a") run.1 run.2.events = 1 := by
  have reported : corrections ("r", "a") ((repair spoiltPlan).runIn spoiltSession).2.events = 1 := by
    decide +kernel
  have after : ((repair spoiltPlan).runIn spoiltSession).2.store.opened.revision ("r", "a") = 1 := by
    decide +kernel
  have before : spoiltSession.store.opened.revision ("r", "a") = 1 := by decide +kernel
  refine ⟨reported, after, before, ?_⟩
  obtain ⟨events, all, account, -⟩ := @corrections_repair spoiltPlan rfl spoiltSession ("r", "a")
  have same : ((repair spoiltPlan).runIn spoiltSession).2.events = events :=
    all.trans Array.empty_append
  rw [← same, reported, after, before] at account
  omega

end RegistryMend.Repair
