import RegistryMend.Repair.Batch

/-! # What work does

`Work.Runs` says how work ends on a store, which store it leaves and what it reports, whatever was
reported and opened before. There is one rule for each way of putting work together, and work that
runs does so in one way only.
-/

namespace RegistryMend.Repair.Work

open RegistryMend.Storage (Blob)

variable {σ τ α β : Type}

/-! ## In a session -/

theorem runIn_openBlob (blob : Blob) (session : Session σ) :
    (openBlob blob).runIn session =
      (.ok (blob.opening session.openings), { session with openings := session.openings + 1 }) :=
  rfl

theorem runIn_forM_report (events : List Event) (session : Session σ) :
    (events.forM report).runIn session =
      (.ok (), { session with events := session.events ++ events.toArray }) := by
  induction events generalizing session with
  | nil => simp
  | cons event rest ih =>
    change (report event >>= fun _ => rest.forM report).runIn session = _
    rw [runIn_bind, runIn_report]
    dsimp only
    rw [ih]
    simp

/-! ## On a store -/

/-- On a store the work ends with a result, leaves a store behind and reports events. -/
def Runs (work : Work σ α) (store : σ) (result : Except Failure α) (after : σ)
    (events : Array Event) : Prop :=
  ∀ before openings, ∃ later,
    work.runIn ⟨store, before, openings⟩ = (result, ⟨after, before ++ events, later⟩)

variable {work : Work σ α} {store after last : σ} {result : Except Failure α}
  {events others : Array Event}

/-- Work that runs does so in one way. -/
theorem Runs.unique {result_ : Except Failure α} (first : Runs work store result after events)
    (second : Runs work store result_ last others) :
    result = result_ ∧ after = last ∧ events = others := by
  obtain ⟨later, run⟩ := first #[] 0
  obtain ⟨later_, run_⟩ := second #[] 0
  rw [run] at run_
  simp only [Prod.mk.injEq, Session.mk.injEq, Array.empty_append] at run_
  exact ⟨run_.1, run_.2.1, run_.2.2.1⟩

/-- What is seen when work that runs does so in a session. -/
theorem Runs.seen {session : Session σ} (run : Runs work session.store result after events) :
    (work.runIn session).1 = result ∧ (work.runIn session).2.store = after ∧
      (work.runIn session).2.events = session.events ++ events := by
  obtain ⟨later, same⟩ := run session.events session.openings
  have same_ : work.runIn session = (result, ⟨after, session.events ++ events, later⟩) := same
  rw [same_]
  exact ⟨rfl, rfl, rfl⟩

theorem runs_ofExcept {given : Except Failure α} (same : given = result) (store : σ) :
    Runs (ofExcept given) store result store #[] :=
  fun before openings => ⟨openings, by rw [runIn_ofExcept, same, Array.append_empty]⟩

theorem runs_pure (a : α) (store : σ) : Runs (pure a : Work σ α) store (.ok a) store #[] :=
  runs_ofExcept rfl store

theorem runs_throw (failure : Failure) (store : σ) :
    Runs (throw failure : Work σ α) store (.error failure) store #[] :=
  runs_ofExcept rfl store

theorem runs_store (store : σ) : Runs Work.store store (.ok store) store #[] :=
  fun before openings => ⟨openings, by rw [runIn_store, Array.append_empty]⟩

theorem runs_setStore (store new : σ) : Runs (setStore new) store (.ok ()) new #[] :=
  fun before openings => ⟨openings, by rw [runIn_setStore, Array.append_empty]⟩

theorem runs_report (event : Event) (store : σ) :
    Runs (report event) store (.ok ()) store #[event] :=
  fun before openings => ⟨openings, by rw [runIn_report, Array.push_eq_append]⟩

/-- A blob that gives the same at every opening does not tell how many there were before. -/
theorem runs_openBlob {blob : Blob} (steady : ∀ n, blob.opening n = blob.opening 0) (store : σ) :
    Runs (openBlob blob) store (.ok (blob.opening 0)) store #[] := by
  intro before openings
  exact ⟨openings + 1, by rw [runIn_openBlob, Array.append_empty, steady openings]⟩

theorem Runs.bind {next : α → Work σ β} {a : α} {result : Except Failure β}
    (first : Runs work store (.ok a) after events)
    (second : Runs (next a) after result last others) :
    Runs (work >>= next) store result last (events ++ others) := by
  intro before openings
  obtain ⟨later, run⟩ := first before openings
  obtain ⟨later_, run_⟩ := second (before ++ events) later
  exact ⟨later_, by rw [runIn_bind, run, ← Array.append_assoc, ← run_]⟩

theorem Runs.bind_error {next : α → Work σ β} {failure : Failure}
    (first : Runs work store (.error failure) after events) :
    Runs (work >>= next) store (.error failure) after events := by
  intro before openings
  obtain ⟨later, run⟩ := first before openings
  exact ⟨later, by rw [runIn_bind, run]⟩

/-- Behind work that tells nothing stands what the work after it tells. -/
theorem Runs.silent_bind {next : α → Work σ β} {a : α} {result : Except Failure β}
    (first : Runs work store (.ok a) after #[])
    (second : Runs (next a) after result last others) :
    Runs (work >>= next) store result last others := by
  have both := first.bind second
  rwa [Array.empty_append] at both

/-- Work that tells nothing adds nothing to what the work before it tells. -/
theorem Runs.bind_silent {next : α → Work σ β} {a : α} {result : Except Failure β}
    (first : Runs work store (.ok a) after events)
    (second : Runs (next a) after result last #[]) :
    Runs (work >>= next) store result last events := by
  have both := first.bind second
  rwa [Array.append_empty] at both

theorem Runs.attempt (run : Runs work store result after events) :
    Runs work.attempt store (.ok result) after events := by
  intro before openings
  obtain ⟨later, same⟩ := run before openings
  exact ⟨later, by rw [runIn_attempt, same]⟩

theorem Runs.within {enter : τ → σ} (leave : τ → Except Failure α → σ → τ) {outer : τ}
    (run : Runs work (enter outer) result after events) :
    Runs (work.within enter leave) outer result (leave outer result after) events := by
  intro before openings
  obtain ⟨later, same⟩ := run before openings
  exact ⟨later, by rw [runIn_within, same]⟩

/-- A change of the failure changes nothing else. -/
theorem Runs.adapt (change : Failure → Failure) (run : Runs work store result after events) :
    Runs (ExceptT.adapt change work) store (result.mapError change) after events := by
  intro before openings
  obtain ⟨later, same⟩ := run before openings
  have adapted : runIn (ExceptT.adapt change work) ⟨store, before, openings⟩ =
      ((work.runIn ⟨store, before, openings⟩).1.mapError change,
        (work.runIn ⟨store, before, openings⟩).2) := rfl
  exact ⟨later, by rw [adapted, same]⟩

theorem runs_forM_report (events : List Event) (store : σ) :
    Runs (events.forM report) store (.ok ()) store events.toArray :=
  fun _ openings => ⟨openings, runIn_forM_report ..⟩

end RegistryMend.Repair.Work
