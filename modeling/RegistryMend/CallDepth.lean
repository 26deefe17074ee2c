/-! # How deep calls are nested

Readers that call themselves go only as deep as calls may be nested. Where a limit is met depends on
how many calls one more level takes, and on the calls that are open when reading begins.
-/

namespace RegistryMend

/-- How deep calls may be nested. -/
def mostCalls : Nat := 1000

/-- How many calls are open when the content of a tarball or of an asset is looked at. -/
def openCalls : Nat := 19

/-- How many calls are left to a reader. -/
def callsLeft : Nat := mostCalls - openCalls

end RegistryMend
