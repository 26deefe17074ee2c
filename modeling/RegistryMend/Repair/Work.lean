import RegistryMend.Repair.Event
import RegistryMend.Storage.Blob

/-! # Work

Work acts on a store, reports events and opens blobs. It ends with a result or a failure, and what
it has reported stays reported either way.
-/

namespace RegistryMend.Repair

open RegistryMend.Storage (Blob Opening)

/-- What work has changed so far. -/
structure Session (σ : Type) where
  store : σ
  events : Array Event := #[]
  /-- How many blobs were opened. -/
  openings : Nat := 0

/-- Work on a store of type `σ`. -/
abbrev Work (σ α : Type) := ExceptT Failure (StateM (Session σ)) α

namespace Work

variable {σ τ α : Type}

/-- Runs work in a session. -/
def runIn (work : Work σ α) (session : Session σ) : Except Failure α × Session σ :=
  ExceptT.run work session

/-- Work that ends as given. -/
def ofExcept (result : Except Failure α) : Work σ α :=
  ExceptT.mk (pure result)

/-- Reports an event. -/
def report (event : Event) : Work σ Unit :=
  modify fun session => { session with events := session.events.push event }

/-- The store as it is. -/
def store : Work σ σ := do
  return (← get).store

/-- Replaces the store. -/
def setStore (store : σ) : Work σ Unit :=
  modify fun session => { session with store }

/-- Opens a blob. -/
def openBlob (blob : Blob) : Work σ Opening := do
  let session ← get
  set { session with openings := session.openings + 1 }
  return blob.opening session.openings

/-- Work that always ends with how other work ends. -/
def attempt (work : Work σ α) : Work σ (Except Failure α) :=
  ExceptT.mk do
    return .ok (← ExceptT.run work)

/-- Work on another store: `enter` derives it from this one, and `leave` gives this one back from
what it was, how the work ended and what the other store became. -/
def within (enter : τ → σ) (leave : τ → Except Failure α → σ → τ) (work : Work σ α) : Work τ α :=
  fun (session : Session τ) =>
    let (result, inner) := work.runIn { session with store := enter session.store }
    (result, { inner with store := leave session.store result inner.store })

@[simp] theorem runIn_pure (a : α) (session : Session σ) :
    (pure a : Work σ α).runIn session = (.ok a, session) := rfl

/-- Work goes on from the session that the work before it left, unless that failed. -/
theorem runIn_bind {β : Type} (work : Work σ α) (next : α → Work σ β) (session : Session σ) :
    (work >>= next).runIn session =
      match work.runIn session with
      | (.ok a, after) => (next a).runIn after
      | (.error failure, after) => (.error failure, after) := by
  change (ExceptT.bindCont next (work.runIn session).1).run (work.runIn session).2 = _
  obtain ⟨result, after⟩ := work.runIn session
  cases result <;> rfl

@[simp] theorem runIn_ofExcept (result : Except Failure α) (session : Session σ) :
    (ofExcept result).runIn session = (result, session) := rfl

@[simp] theorem runIn_report (event : Event) (session : Session σ) :
    (report event).runIn session =
      (.ok (), { session with events := session.events.push event }) := rfl

@[simp] theorem runIn_store (session : Session σ) :
    (store : Work σ σ).runIn session = (.ok session.store, session) := rfl

@[simp] theorem runIn_setStore (new : σ) (session : Session σ) :
    (setStore new).runIn session = (.ok (), { session with store := new }) := rfl

@[simp] theorem runIn_attempt (work : Work σ α) (session : Session σ) :
    work.attempt.runIn session = (.ok (work.runIn session).1, (work.runIn session).2) := rfl

@[simp] theorem runIn_within (enter : τ → σ) (leave : τ → Except Failure α → σ → τ)
    (work : Work σ α) (session : Session τ) :
    (work.within enter leave).runIn session =
      ((work.runIn { session with store := enter session.store }).1,
        { (work.runIn { session with store := enter session.store }).2 with
          store := leave session.store (work.runIn { session with store := enter session.store }).1
            (work.runIn { session with store := enter session.store }).2.store }) := rfl

end Work

end RegistryMend.Repair
