import RegistryMend.Proofs.Repair.Passes

/-! # Pages and the rows behind a cursor

The rows behind a cursor are in increasing order of ids. A page is their beginning, and behind its
last id stand the rows that are left. Going from page to page therefore gives every row once.
-/

namespace RegistryMend.Repair

open RegistryMend.Storage (AssetRow Database RootKey)

/-- The assets of a repository behind a cursor, as stored. -/
def rowsBehind (db : Database) (repository : String) (cursor : Cursor) : List AssetRow :=
  db.assets.rows.filter fun row => cursor.value < row.id && row.repository ∈ [repository]

/-- A repository has an asset, as its row is read. -/
def Holds (db : Database) (repository : String) (asset : Asset) : Prop :=
  ∃ row ∈ db.assets.rows, row.repository = repository ∧ Asset.ofRow row = .ok asset

/-! ## Rows as assets -/

theorem id_of_ofRow {row : AssetRow} {asset : Asset} (read : Asset.ofRow row = .ok asset) :
    asset.id = row.id := by
  rw [Asset.ofRow] at read
  split at read
  · cases read
    rfl
  · cases read

theorem ids_of_assetsOfRows {rows : List AssetRow} {assets : List Asset}
    (read : assetsOfRows rows = .ok assets) : assets.map Asset.id = rows.map AssetRow.id := by
  induction rows generalizing assets with
  | nil =>
    cases read
    rfl
  | cons row rest ih =>
    rw [assetsOfRows] at read
    split at read
    · cases read
    · next asset found =>
      obtain ⟨others, later, rfl⟩ := exists_of_map_eq_ok read
      rw [List.map_cons, List.map_cons, ih later, id_of_ofRow found]

theorem length_of_assetsOfRows {rows : List AssetRow} {assets : List Asset}
    (read : assetsOfRows rows = .ok assets) : assets.length = rows.length := by
  have ids := congrArg List.length (ids_of_assetsOfRows read)
  rwa [List.length_map, List.length_map] at ids

/-- The assets are what the rows are read as. -/
theorem mem_of_assetsOfRows {rows : List AssetRow} {assets : List Asset}
    (read : assetsOfRows rows = .ok assets) {asset : Asset} :
    asset ∈ assets ↔ ∃ row ∈ rows, Asset.ofRow row = .ok asset := by
  induction rows generalizing assets with
  | nil =>
    cases read
    simp
  | cons row rest ih =>
    rw [assetsOfRows] at read
    split at read
    · cases read
    · next first found =>
      obtain ⟨others, later, rfl⟩ := exists_of_map_eq_ok read
      rw [List.mem_cons, ih later]
      constructor
      · rintro (rfl | ⟨other, member, same⟩)
        · exact ⟨row, List.mem_cons_self .., found⟩
        · exact ⟨other, List.mem_cons_of_mem _ member, same⟩
      · rintro ⟨other, member, same⟩
        rcases List.mem_cons.mp member with rfl | member
        · rw [found] at same
          exact .inl (Except.ok.inj same).symm
        · exact .inr ⟨other, member, same⟩

/-- Rows are read one part after the other. -/
theorem assetsOfRows_append (first second : List AssetRow) : assetsOfRows (first ++ second) =
    match assetsOfRows first with
    | .error failure => .error failure
    | .ok assets => (assetsOfRows second).map (assets ++ ·) := by
  induction first with
  | nil =>
    rw [List.nil_append, assetsOfRows]
    cases assetsOfRows second <;> rfl
  | cons row rest ih =>
    rw [List.cons_append, assetsOfRows, assetsOfRows]
    cases Asset.ofRow row with
    | error failure => rfl
    | ok asset =>
      dsimp only
      rw [ih]
      cases assetsOfRows rest with
      | error failure => rfl
      | ok assets => cases assetsOfRows second <;> rfl

/-! ## Pages -/

/-- A page is the beginning of the rows behind its cursor. -/
theorem page_eq {db : Database} (usable : db.holds .assets = true) (repository : String)
    (cursor : Cursor) (size : Nat) : page db repository cursor size =
      assetsOfRows ((rowsBehind db repository cursor).take size) := by
  rw [page, findAssets, if_neg (by simp), Database.assetRows, Database.require, if_pos usable]
  rfl

theorem page_of_not_holds {db : Database} (unusable : db.holds .assets = false)
    (repository : String) (cursor : Cursor) (size : Nat) :
    page db repository cursor size = .error (.database .statement) := by
  rw [page, findAssets, if_neg (by simp), Database.assetRows, Database.require,
    if_neg (by rw [unusable]; decide)]
  rfl

theorem id_of_mem_rowsBehind {db : Database} {repository : String} {cursor : Cursor}
    {row : AssetRow} (member : row ∈ rowsBehind db repository cursor) : cursor.value < row.id := by
  have kept := (List.mem_filter.mp member).2
  rw [Bool.and_eq_true, decide_eq_true_eq] at kept
  exact kept.1

/-- Behind the last row of a page stand the rows that are left. -/
theorem rowsBehind_next {db : Database} {repository : String} {cursor : Cursor} {size : Nat}
    {last : AssetRow}
    (ends : ((rowsBehind db repository cursor).take size).getLast? = some last) :
    rowsBehind db repository ⟨last.id⟩ = (rowsBehind db repository cursor).drop size := by
  obtain ⟨before, page⟩ := List.getLast?_eq_some_iff.mp ends
  have whole := (List.take_append_drop size (rowsBehind db repository cursor)).symm
  generalize left : (rowsBehind db repository cursor).drop size = rest at *
  rw [page] at whole
  have increasing : (rowsBehind db repository cursor).Pairwise (·.id < ·.id) :=
    db.assets.increasing.sublist List.filter_sublist
  rw [whole, List.append_assoc, List.pairwise_append] at increasing
  obtain ⟨-, upper, across⟩ := increasing
  rw [List.singleton_append, List.pairwise_cons] at upper
  have member : last ∈ rowsBehind db repository cursor := by
    rw [whole]
    simp
  have behind := id_of_mem_rowsBehind member
  have twice : rowsBehind db repository ⟨last.id⟩ =
      (rowsBehind db repository cursor).filter fun row => last.id < row.id := by
    rw [rowsBehind, rowsBehind, List.filter_filter]
    refine List.filter_congr fun row _ => ?_
    by_cases later : last.id < row.id
    · simp [later, behind.trans later]
    · simp [later]
  rw [twice, whole, List.filter_append, List.filter_append]
  have none_ : before.filter (fun row => last.id < row.id) = [] := by
    refine List.filter_eq_nil_iff.mpr fun row member => ?_
    have order := across row member last (by simp)
    simpa using order.le
  have all : rest.filter (fun row => last.id < row.id) = rest :=
    List.filter_eq_self.mpr fun row member => decide_eq_true (upper.1 row member)
  rw [none_, all]
  simp

/-- All rows of a repository with assigned ids lie behind the first cursor. -/
theorem rowsBehind_beginning {db : Database} {repository : String}
    (numbered : ∀ row ∈ db.assets.rows, row.repository = repository → 0 ≤ row.id) :
    rowsBehind db repository .beginning =
      db.assets.rows.filter fun row => row.repository = repository := by
  refine List.filter_congr fun row member => ?_
  by_cases same : row.repository = repository
  · have assigned := numbered row member same
    have behind : Cursor.beginning.value < row.id := Int.lt_of_lt_of_le (by decide) assigned
    simp [same, behind]
  · simp [same]

theorem length_rowsBehind_lt (db : Database) (repository : String) (cursor : Cursor) :
    (rowsBehind db repository cursor).length < batchBound db :=
  Nat.lt_succ_of_le (List.length_filter_le ..)

/-! ## From page to page -/

/-- The assets of a repository behind a cursor. -/
def assetsBehind (db : Database) (repository : String) (cursor : Cursor) :
    Except Failure (List Asset) :=
  findAssets db [repository] cursor.value none

theorem assetsBehind_eq {db : Database} (usable : db.holds .assets = true) (repository : String)
    (cursor : Cursor) : assetsBehind db repository cursor =
      assetsOfRows (rowsBehind db repository cursor) := by
  rw [assetsBehind, findAssets, if_neg (by simp), Database.assetRows, Database.require,
    if_pos usable]
  rfl

theorem assetsBehind_of_not_holds {db : Database} (unusable : db.holds .assets = false)
    (repository : String) (cursor : Cursor) :
    assetsBehind db repository cursor = .error (.database .statement) := by
  rw [assetsBehind, findAssets, if_neg (by simp), Database.assetRows, Database.require,
    if_neg (by rw [unusable]; decide)]
  rfl

section Page

variable {db : Database} {repository : String} {cursor : Cursor} {size : Nat}
  {assets : List Asset}

theorem usable_of_page (read : page db repository cursor size = .ok assets) :
    db.holds .assets = true := by
  cases usable : db.holds .assets with
  | true => rfl
  | false =>
    rw [page_of_not_holds usable] at read
    cases read

theorem holds_of_mem_rowsBehind {row : AssetRow} (member : row ∈ rowsBehind db repository cursor)
    {asset : Asset} (found : Asset.ofRow row = .ok asset) : Holds db repository asset := by
  obtain ⟨stored, kept⟩ := List.mem_filter.mp member
  simp only [Bool.and_eq_true, decide_eq_true_eq, List.mem_singleton] at kept
  exact ⟨row, stored, kept.2, found⟩

/-- What is on a page belongs to the repository. -/
theorem holds_of_mem_page (read : page db repository cursor size = .ok assets) {asset : Asset}
    (member : asset ∈ assets) : Holds db repository asset := by
  rw [page_eq (usable_of_page read)] at read
  obtain ⟨row, taken, found⟩ := (mem_of_assetsOfRows read).mp member
  exact holds_of_mem_rowsBehind (List.mem_of_mem_take taken) found

theorem usable_of_assetsBehind (read : assetsBehind db repository cursor = .ok assets) :
    db.holds .assets = true := by
  cases usable : db.holds .assets with
  | true => rfl
  | false =>
    rw [assetsBehind_of_not_holds usable] at read
    cases read

/-- What is behind a cursor belongs to the repository. -/
theorem holds_of_mem_assetsBehind (read : assetsBehind db repository cursor = .ok assets)
    {asset : Asset} (member : asset ∈ assets) : Holds db repository asset := by
  rw [assetsBehind_eq (usable_of_assetsBehind read)] at read
  obtain ⟨row, behind, found⟩ := (mem_of_assetsOfRows read).mp member
  exact holds_of_mem_rowsBehind behind found

/-- If all assets can be read, the first of them are a page. -/
theorem exists_page (read : assetsBehind db repository cursor = .ok assets) (size : Nat) :
    ∃ first rest, page db repository cursor size = .ok first ∧ assets = first ++ rest := by
  have usable := usable_of_assetsBehind read
  rw [assetsBehind_eq usable, ← List.take_append_drop size (rowsBehind db repository cursor),
    assetsOfRows_append] at read
  rw [page_eq usable]
  split at read
  · cases read
  · next first found =>
    obtain ⟨rest, -, rfl⟩ := exists_of_map_eq_ok read
    exact ⟨first, rest, found, rfl⟩

/-- The last page is not full. -/
theorem length_lt_of_last (positive : 1 ≤ size)
    (ends : Cursor.next (assets.map Asset.id) (some size) = none) : assets.length < size := by
  by_contra full
  have full_ : ((size : Nat) : Int) ≤ (assets.map Asset.id).length := by
    rw [List.length_map]
    omega
  rw [Cursor.next_of_full full_, Option.map_eq_none_iff, List.getLast?_eq_none_iff,
    List.map_eq_nil_iff] at ends
  rw [ends, List.length_nil] at full
  omega

/-- The last page holds all of the assets that are left. -/
theorem assetsBehind_of_last (positive : 1 ≤ size)
    (read : page db repository cursor size = .ok assets)
    (ends : Cursor.next (assets.map Asset.id) (some size) = none) :
    assetsBehind db repository cursor = .ok assets := by
  have usable := usable_of_page read
  rw [page_eq usable] at read
  have short := length_lt_of_last positive ends
  have count := length_of_assetsOfRows read
  rw [List.length_take] at count
  have whole : (rowsBehind db repository cursor).take size = rowsBehind db repository cursor :=
    List.take_of_length_le (by omega)
  rw [assetsBehind_eq usable, ← whole]
  exact read

/-- A page that is followed by another one ends with the row of its cursor. -/
theorem last_of_next {follow : Cursor} (read : page db repository cursor size = .ok assets)
    (goes : Cursor.next (assets.map Asset.id) (some size) = some follow) :
    ∃ last, ((rowsBehind db repository cursor).take size).getLast? = some last ∧
      follow = ⟨last.id⟩ := by
  rw [page_eq (usable_of_page read)] at read
  rw [Cursor.next] at goes
  split at goes
  · cases goes
  · rw [ids_of_assetsOfRows read, List.getLast?_map, Option.map_map] at goes
    obtain ⟨last, ends, same⟩ := Option.map_eq_some_iff.mp goes
    exact ⟨last, ends, same.symm⟩

/-- Before the next page stand the assets of this one. -/
theorem assetsBehind_of_next {follow : Cursor}
    (read : page db repository cursor size = .ok assets)
    (goes : Cursor.next (assets.map Asset.id) (some size) = some follow) :
    assetsBehind db repository cursor = (assetsBehind db repository follow).map (assets ++ ·) := by
  have usable := usable_of_page read
  obtain ⟨last, ends, rfl⟩ := last_of_next read goes
  rw [page_eq usable] at read
  rw [assetsBehind_eq usable, assetsBehind_eq usable, rowsBehind_next ends]
  conv_lhs => rw [← List.take_append_drop size (rowsBehind db repository cursor)]
  rw [assetsOfRows_append, read]

/-- With every page that is followed by another one fewer rows are left. -/
theorem length_rowsBehind_next {follow : Cursor}
    (read : page db repository cursor size = .ok assets)
    (goes : Cursor.next (assets.map Asset.id) (some size) = some follow) :
    (rowsBehind db repository follow).length < (rowsBehind db repository cursor).length := by
  obtain ⟨last, ends, rfl⟩ := last_of_next read goes
  have taken : 0 < ((rowsBehind db repository cursor).take size).length := by
    obtain ⟨before, page⟩ := List.getLast?_eq_some_iff.mp ends
    rw [page]
    simp
  rw [List.length_take] at taken
  rw [rowsBehind_next ends, List.length_drop]
  omega

end Page

end RegistryMend.Repair
