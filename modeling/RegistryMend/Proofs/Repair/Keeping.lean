import RegistryMend.Proofs.Repair.Pages
import RegistryMend.Proofs.Repair.WholePasses

/-! # From visits to passes

What every visit keeps is kept by batches, by the repair of repositories and by whole passes, however
they end: a batch that fails is rolled back, and what was kept before it is kept behind it.
-/

namespace RegistryMend.Repair

open RegistryMend.Storage (Database)

/-- A relation between databases that goes on from one to the next, and into which every visit to an
asset of some repositories fits. -/
structure Plan.Kept (plan : Plan) (names : List String) (kept : Database → Database → Prop) :
    Prop where
  refl : ∀ db, kept db db
  trans : ∀ {first second third}, kept first second → kept second third → kept first third
  visit : ∀ {repository : String} {asset : Asset} {db after : Database}
    {result : Except Failure Bool} {events : Array Event}, repository ∈ names →
      Holds db repository asset → Visit plan repository asset db result after events → kept db after

/-- The repositories that a pass repairs: the selected ones, if there is a list to select from. -/
def Plan.selected (plan : Plan) (database : Option Database) : List String :=
  match browse database with
  | .ok repositories => plan.select repositories
  | .error _ => []

section

variable {plan : Plan} {names : List String} {kept : Database → Database → Prop}
  {repository : String} {db after : Database} {events : Array Event}

theorem Visits.keeps (keeping : plan.Kept names kept) (chosen : repository ∈ names)
    {assets : List Asset} (held : ∀ asset ∈ assets, Holds db repository asset)
    {result : Except Failure Nat} (visits : Visits plan repository assets db result after events) :
    kept db after := by
  induction visits with
  | nil => exact keeping.refl _
  | stop first => exact keeping.visit chosen (held _ (List.mem_cons_self ..)) first.visit
  | next first later ih =>
    have one := keeping.visit chosen (held _ (List.mem_cons_self ..)) first.visit
    obtain ⟨roots, rfl⟩ := first.visit.frame
    exact keeping.trans one (ih fun asset member => held asset (List.mem_cons_of_mem _ member))

theorem BatchRun.keeps (keeping : plan.Kept names kept) (chosen : repository ∈ names)
    {cursor : Cursor} {result : Except Failure BatchResult}
    (batch : BatchRun plan repository cursor db result after events) : kept db after := by
  cases batch with
  | completed read visits =>
    exact visits.keeps keeping chosen fun asset member => holds_of_mem_page read member
  | unread | stopped => exact keeping.refl db

theorem BatchRuns.keeps (keeping : plan.Kept names kept) (chosen : repository ∈ names)
    {fuel : Nat} {cursor : Cursor} {tally : Tally} {final : Except Failure Tally}
    (batches : BatchRuns plan repository fuel cursor tally db final after events) :
    kept db after := by
  induction batches with
  | spent => exact keeping.refl _
  | failed first => exact first.keeps keeping chosen
  | last first _ => exact first.keeps keeping chosen
  | next first _ _ ih => exact keeping.trans (first.keeps keeping chosen) ih

theorem RepositoryRuns.keeps (keeping : plan.Kept names kept) {others : List String}
    (chosen : ∀ name ∈ others, name ∈ names) {result : Except Failure Unit}
    (runs : RepositoryRuns plan others db result after events) : kept db after := by
  induction runs with
  | nil => exact keeping.refl _
  | stop _ first => exact first.keeps keeping (chosen _ (List.mem_cons_self ..))
  | skip _ first _ ih | next first _ ih =>
    exact keeping.trans (first.keeps keeping (chosen _ (List.mem_cons_self ..)))
      (ih fun name member => chosen name (List.mem_cons_of_mem _ member))

theorem PassRun.keeps {premises after : Premises} {result : Except Failure Unit}
    (run : PassRun plan premises result after events)
    (keeping : plan.Kept (plan.selected premises.database) kept) :
    kept premises.opened after.opened := by
  cases run with
  | skipped => exact keeping.refl _
  | unread => exact keeping.refl _
  | repaired _ found _ runs =>
    rw [Plan.selected, found] at keeping
    exact runs.keeps keeping fun name member => member

end

end RegistryMend.Repair
