import RegistryMend.Repair.Pass

/-! # Work that commutes with a change of its store

Work that does not look at what a change touches does the same on the changed store, and leaves it
changed in the same way. It is enough to know this of every step: how work reads its store, and how
it replaces it.
-/

namespace RegistryMend.Repair

open RegistryMend.Package (Id Root)
open RegistryMend.Storage (Blob RootStore)

variable {σ τ α β : Type}

/-- The session with its store changed. -/
def Session.map (change : σ → σ) (session : Session σ) : Session σ :=
  { session with store := change session.store }

namespace Work

/-- On a changed store, work ends in the same way, reports the same, opens as many blobs, and leaves
the changed store of what it leaves otherwise. -/
def Commutes (change : σ → σ) (work : Work σ α) : Prop :=
  ∀ session, work.runIn (session.map change) =
    ((work.runIn session).1, (work.runIn session).2.map change)

variable {change : σ → σ} {work : Work σ α}

theorem commutes_pure (change : σ → σ) (a : α) : Commutes change (pure a) :=
  fun _ => rfl

theorem commutes_throw (change : σ → σ) (failure : Failure) :
    Commutes change (throw failure : Work σ α) :=
  fun _ => rfl

theorem commutes_ofExcept (change : σ → σ) (result : Except Failure α) :
    Commutes change (ofExcept result) :=
  fun _ => rfl

theorem commutes_report (change : σ → σ) (event : Event) : Commutes change (report event) :=
  fun _ => rfl

theorem commutes_openBlob (change : σ → σ) (blob : Blob) : Commutes change (openBlob blob) :=
  fun _ => rfl

theorem Commutes.bind {next : α → Work σ β} (first : Commutes change work)
    (second : ∀ a, Commutes change (next a)) : Commutes change (work >>= next) := by
  intro session
  rw [runIn_bind, runIn_bind, first session]
  obtain ⟨result, after⟩ := work.runIn session
  cases result with
  | ok a => exact second a after
  | error failure => rfl

/-- Reading the store commutes with a change that what follows does not see. -/
theorem commutes_store_bind {next : σ → Work σ α}
    (blind : ∀ store, next (change store) = next store)
    (commutes : ∀ store, Commutes change (next store)) : Commutes change (store >>= next) := by
  intro session
  rw [runIn_bind, runIn_bind, runIn_store, runIn_store]
  dsimp only [Session.map]
  rw [blind]
  exact commutes session.store session

/-- So does replacing the store by one that follows the change. -/
theorem commutes_update {step : σ → Except Failure σ} {next : Work σ α}
    (follows : ∀ store, step (change store) = (step store).map change)
    (commutes : Commutes change next) :
    Commutes change (store >>= fun old => ofExcept (step old) >>= fun new =>
      setStore new >>= fun _ => next) := by
  intro session
  rw [runIn_bind, runIn_bind, runIn_store, runIn_store]
  dsimp only [Session.map]
  rw [follows]
  cases step session.store with
  | error failure => rfl
  | ok new => exact commutes { session with store := new }

theorem Commutes.attempt (commutes : Commutes change work) : Commutes change work.attempt := by
  intro session
  rw [runIn_attempt, runIn_attempt, commutes session]

theorem Commutes.adapt (f : Failure → Failure) (commutes : Commutes change work) :
    Commutes change (ExceptT.adapt f work) := by
  intro session
  have adapted (session : Session σ) : runIn (ExceptT.adapt f work) session =
      ((work.runIn session).1.mapError f, (work.runIn session).2) := rfl
  rw [adapted, adapted, commutes session]

/-- Work on another store commutes if its change is seen there as the other change. -/
theorem Commutes.within {inner : τ → τ} {work : Work τ α} (commutes : Commutes inner work)
    {enter : σ → τ} {leave : σ → Except Failure α → τ → σ}
    (entered : ∀ outer, enter (change outer) = inner (enter outer))
    (left : ∀ outer result store,
      leave (change outer) result (inner store) = change (leave outer result store)) :
    Commutes change (work.within enter leave) := by
  intro session
  have run := commutes { session with store := enter session.store }
  rw [runIn_within, runIn_within]
  dsimp only [Session.map] at run ⊢
  rw [entered, run, left]

theorem commutes_forM_report (change : σ → σ) (events : List Event) :
    Commutes change (events.forM report) := by
  induction events with
  | nil => exact commutes_pure change ()
  | cons event rest ih => exact (commutes_report change event).bind fun _ => ih

end Work

/-! ## Reconciling -/

/-- A change does not touch what a store of roots holds for a repository. -/
structure Ignores (roots : RootStore σ) (repository : String) (change : σ → σ) : Prop where
  get : ∀ id store, roots.get repository id (change store) = roots.get repository id store
  put : ∀ id expected root store, roots.put repository id expected root (change store) =
    (roots.put repository id expected root store).map change

section

variable {change : σ → σ} {roots : RootStore σ} {repository : String}

theorem recalculate_commutes (change : σ → σ) (asset : String) (blob : Blob) (tag : WideText) :
    Work.Commutes change (recalculate asset blob tag) := by
  refine (Work.commutes_openBlob change blob).bind fun opening => ?_
  split
  · exact Work.commutes_pure change _
  · exact (Work.commutes_report change _).bind fun _ => Work.commutes_pure change _

theorem withIntegrity_commutes (change : σ → σ) (asset : Asset) (blob : Blob) (version : WideText)
    (stored merged : Root) :
    Work.Commutes change (withIntegrity asset blob version stored merged) := by
  unfold withIntegrity
  split
  · exact Work.commutes_pure change _
  · split
    · exact Work.commutes_pure change _
    · exact (recalculate_commutes change _ _ _).bind fun _ => Work.commutes_pure change _

theorem correct_commutes (ignores : Ignores roots repository change) (asset : Asset) (blob : Blob)
    (release : Release) : Work.Commutes change (correct roots repository asset blob release) := by
  refine Work.commutes_store_bind (fun store => ?_) fun store => ?_
  · dsimp only
    rw [ignores.get]
  · refine (Work.commutes_ofExcept change _).bind fun found => ?_
    cases found with
    | none => exact Work.commutes_pure change _
    | some stored =>
      dsimp only
      split
      · exact Work.commutes_pure change _
      · exact (withIntegrity_commutes change _ _ _ _ _).bind fun root =>
          Work.commutes_update (ignores.put release.id none root) (Work.commutes_pure change _)

theorem reconcile_commutes (ignores : Ignores roots repository change) (reader : ManifestReader)
    (asset : Asset) (blob : Blob) :
    Work.Commutes change (reconcile roots reader repository asset blob) := by
  refine (Work.commutes_openBlob change blob).bind fun opening =>
    (Work.commutes_ofExcept change _).bind fun given =>
      (Work.commutes_forM_report change _).bind fun _ =>
        (Work.commutes_ofExcept change _).bind fun release =>
          (correct_commutes ignores asset blob release).attempt.bind fun result => ?_
  match result with
  | .ok none => exact Work.commutes_pure change _
  | .ok (some old) => exact (Work.commutes_report change _).bind fun _ => Work.commutes_pure change _
  | .error failure =>
    dsimp only
    split
    · exact (Work.commutes_report change _).bind fun _ => Work.commutes_pure change _
    · exact Work.commutes_throw change failure

end

end RegistryMend.Repair
