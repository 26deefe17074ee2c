import RegistryMend.Main
import RegistryMend.Schedule.Scheduler
import RegistryMend.Storage.Filling
import RegistryMend.Proofs.Archive.Deflate
import RegistryMend.Proofs.Journal.AuditLines
import RegistryMend.Proofs.Package.Remerge
import RegistryMend.Proofs.Repair.Clients
import RegistryMend.Proofs.Repair.Collateral
import RegistryMend.Proofs.Repair.Confluence
import RegistryMend.Proofs.Repair.Inertness
import RegistryMend.Proofs.Repair.Reconciling
import RegistryMend.Proofs.Repair.Restart
import RegistryMend.Proofs.Storage.BlobPlaces
import RegistryMend.Proofs.Archive.Inflating
import RegistryMend.Proofs.Archive.Gzip
import RegistryMend.Proofs.Archive.StoredBlocks
import RegistryMend.Proofs.Archive.Windows
import RegistryMend.Proofs.Archive.Ustar
import RegistryMend.Proofs.Text.Utf8
import RegistryMend.Proofs.Archive.Members
import RegistryMend.Proofs.Package.Tarball
import RegistryMend.Proofs.Archive.Packing
import RegistryMend.Proofs.Archive.IntactWalks
import RegistryMend.Proofs.Package.Outcomes
import RegistryMend.Proofs.Repair.Counts
import RegistryMend.Proofs.Storage.BlobAliases
import RegistryMend.Proofs.Package.Fragments
import RegistryMend.Proofs.Repair.Scripts
import RegistryMend.Proofs.Text.Blank
import RegistryMend.Proofs.Settings.Assignments
import RegistryMend.Proofs.Text.Casing
import RegistryMend.Proofs.Settings.Validation
import RegistryMend.Proofs.Settings.Loading
import RegistryMend.Proofs.Schedule.Grammar
import RegistryMend.Proofs.Service.CronMode
import RegistryMend.Proofs.Repair.Failures
import RegistryMend.Proofs.Schedule.Histories
import RegistryMend.Proofs.Package.DistFacts
