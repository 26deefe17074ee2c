import RegistryMend.Repair.Asset

/-! # Pages of assets

Assets are taken in pages, in the order of their ids. A cursor is the id behind which a page
starts. A page that is empty or shorter than asked for is the last.
-/

namespace RegistryMend.Repair

open RegistryMend.Storage (Database)

/-- The id behind which a page starts. -/
structure Cursor where
  value : Int
deriving DecidableEq, Repr

namespace Cursor

/-- The cursor of the first page; ids that were assigned lie behind it. -/
def beginning : Cursor := ⟨-1⟩

/-- Whether a cursor lies before another one. -/
def isBefore (cursor other : Cursor) : Bool :=
  cursor.value < other.value

/-- The cursor behind a page, given its ids and how many were asked for. -/
def next (ids : List Int) (limit : Option Int) : Option Cursor :=
  if limit.any fun n => (ids.length : Int) < n then none
  else ids.getLast?.map fun id => ⟨id⟩

/-- A page that is shorter than asked for is the last. -/
theorem next_eq_none_of_short {ids : List Int} {limit : Int} (short : (ids.length : Int) < limit) :
    next ids (some limit) = none := by
  simp [next, short]

/-- A full page goes on behind its last id. -/
theorem next_of_full {ids : List Int} {limit : Int} (full : limit ≤ ids.length) :
    next ids (some limit) = ids.getLast?.map Cursor.mk := by
  simp [next, Int.not_lt.mpr full]

end Cursor

/-- Reads rows as assets, up to the first that cannot be read. -/
def assetsOfRows : List Storage.AssetRow → Except Failure (List Asset)
  | [] => .ok []
  | row :: rest =>
    match Asset.ofRow row with
    | .error failure => .error failure
    | .ok asset => (assetsOfRows rest).map (asset :: ·)

/-- The first assets behind a cursor in some repositories. -/
def findAssets (db : Database) (repositories : List String) (cursor : Int) (limit : Option Nat) :
    Except Failure (List Asset) :=
  if repositories.isEmpty then .ok []
  else
    match db.assetRows repositories cursor limit with
    | .error fault => .error (.database fault)
    | .ok rows => assetsOfRows rows

/-- The number of assets in a page; at least one. -/
def pageSize (asked : Int) : Nat :=
  max 1 asked.toNat

/-- A page of the assets of a repository. -/
def page (db : Database) (repository : String) (cursor : Cursor) (size : Nat) :
    Except Failure (List Asset) :=
  findAssets db [repository] cursor.value (some size)

end RegistryMend.Repair
