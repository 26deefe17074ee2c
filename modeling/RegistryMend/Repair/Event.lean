import RegistryMend.Failure
import RegistryMend.Journal.Level

/-! # Events

What happens in a repair is told by events. Each has a level and a text, and some carry the failure
that caused them. The correction of a package root is the one event that is audited.
-/

namespace RegistryMend.Repair

/-- What happens in a repair. -/
inductive Event where
  | passBegun (format : String)
  | passSkipped
  | passCompleted (repositories : Nat)
  | passFailed (failure : Failure)
  | repositoryFailed (repository : String) (failure : Failure)
  | repositoryFinished (format repository : String) (batches scanned repaired : Nat)
  | batchBegun (format : String) (cursor : Int) (batchSize : Nat)
  | blobMissing (asset ref : String)
  | manifestRead (name version : WideText)
  | rootRepaired (repository : String) (packageId version : WideText) (old : Option WideText)
      (new : String)
  | updateFailed (asset : String) (failure : Failure)
  | hashFailed (asset : String) (failure : Failure)
  | scheduled (expression : String)
  | schedulerStopped
deriving DecidableEq, Repr

namespace Event

/-- The level of an event. -/
def level : Event → Journal.Level
  | passSkipped => .warning
  | passFailed _ | repositoryFailed .. | updateFailed .. | hashFailed .. => .error
  | blobMissing .. | manifestRead .. => .debug
  | _ => .info

/-- The failure that an event reports. -/
def failure? : Event → Option Failure
  | passFailed failure => some failure
  | repositoryFailed _ failure => some failure
  | updateFailed _ failure => some failure
  | hashFailed _ failure => some failure
  | _ => none

/-- The repository whose package root was corrected. -/
def audited? : Event → Option String
  | rootRepaired repository .. => some repository
  | _ => none

/-- The text of an event. -/
def text (describe : Fault → String) : Event → WideText
  | passBegun format => "Beginning processing all " ++ format ++ " packages for repair"
  | passSkipped => "Repair skipped: another repair pass is still running"
  | passCompleted repositories =>
    "Repair pass completed: repositories: " ++ Decimal.naturalText repositories
  | passFailed _ => "Repair pass failed"
  | repositoryFailed repository _ =>
    "Repair of repository " ++ repository ++ " failed; continuing with next repository"
  | repositoryFinished format repository batches scanned repaired =>
    "Finished processing all " ++ format ++ " packages for repair: repository: " ++ repository ++
      ", batches: " ++ Decimal.naturalText batches ++ ", scanned: " ++
      Decimal.naturalText scanned ++ ", repaired: " ++ Decimal.naturalText repaired
  | batchBegun format cursor batchSize =>
    "Processing next batch of " ++ format ++ " packages for repair. Starting at id = " ++
      Decimal.integerText cursor ++ " with max batch size = " ++ Decimal.naturalText batchSize
  | blobMissing asset ref => "Skipping asset " ++ asset ++ ": blob " ++ ref ++ " not found"
  | manifestRead name version =>
    "Parsed package.json: name: " ++ name ++ ", version: " ++ version
  | rootRepaired _ packageId version old new =>
    "Package root repaired: package: " ++ packageId ++ ", version: " ++ version ++ ", shasum: " ++
      old.getD "None" ++ " -> " ++ new
  | updateFailed asset failure =>
    "Failed to update asset " ++ asset ++ ": " ++ failure.message describe
  | hashFailed asset failure =>
    "Failed to calculate hash for asset " ++ asset ++ ": " ++ failure.message describe
  | scheduled expression => "Repair scheduled with cron: '" ++ expression ++ "'"
  | schedulerStopped => "Repair scheduler stopped"

end Event

end RegistryMend.Repair
