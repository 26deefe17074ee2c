import RegistryMend.Package.Manifest
import RegistryMend.Proofs.Archive.IntactWalks
import RegistryMend.Proofs.Sequencing

/-! # What reading a manifest comes to

Reading a tarball gives a manifest with a name and a version, or a problem of the manifest. Some
faults are not taken as such a problem. Those of the archive are met on the way to the next header, in a
header itself unless its data is damaged there, and in the data of the manifest. The text of the manifest
may be nested too deeply to be read.
-/

namespace RegistryMend.Package

open RegistryMend.Archive
open RegistryMend.Json (Members Value)

/-! ## Searches -/

/-- A number of members that are not wanted are passed, one after the other. -/
inductive Passes (wanted : Entry → Bool) (bound : Nat) : (count : Nat) → Tar → Tar → Prop
  | none {archive : Tar} : Passes wanted bound 0 archive archive
  | member {count : Nat} {archive middle after : Tar} {entry : Entry}
      (found : Tar.nextEntry bound archive = .ok (some entry, middle))
      (other : wanted entry = false) (later : Passes wanted bound count middle after) :
      Passes wanted bound (count + 1) archive after

section

variable {wanted : Entry → Bool} {bound fuel : Nat} {archive : Tar}

/-- How a search ends. -/
inductive Ends (wanted : Entry → Bool) (bound fuel : Nat) (archive : Tar) :
    Except ArchiveFault (Option Entry × Tar) → Prop
  | nowhere {after : Tar} : Ends wanted bound fuel archive (.ok (none, after))
  | found {count : Nat} {middle after : Tar} {entry : Entry} (few : count < fuel)
      (passes : Passes wanted bound count archive middle)
      (found : Tar.nextEntry bound middle = .ok (some entry, after))
      (isWanted : wanted entry = true) : Ends wanted bound fuel archive (.ok (some entry, after))
  | failed {count : Nat} {middle : Tar} {fault : ArchiveFault} (few : count < fuel)
      (passes : Passes wanted bound count archive middle)
      (fails : Tar.nextEntry bound middle = .error fault) :
      Ends wanted bound fuel archive (.error fault)

end

theorem Passes.stands {wanted : Entry → Bool} {bound count : Nat} {archive middle : Tar}
    {data : List UInt8} (passes : Passes wanted bound count archive middle)
    (stands : ∃ position, archive.window.At data position) :
    ∃ position, middle.window.At data position := by
  induction passes with
  | none => exact stands
  | member found _ _ ih => exact ih ((Tar.spares_nextEntry bound).keeps stands found)

end RegistryMend.Package
