import RegistryMend.Proofs.Archive.Members

/-! # Walks over intact files

Whatever the headers of an archive say, as long as its compressed file is intact no step meets
damaged data. What can go wrong then lies in the headers themselves.
-/

namespace RegistryMend.Archive

namespace Walk

variable {α β : Type} {data : List UInt8}

/-- A walk over data of an intact file keeps to it, and never stops at damaged data. -/
def Spares (data : List UInt8) (walk : Walk α) : Prop :=
  ∀ archive : Tar, (∃ position, archive.window.At data position) →
    match walk archive with
    | .ok (_, after) => ∃ position, after.window.At data position
    | .error fault => fault ≠ .damagedData

theorem Spares.keeps {walk : Walk α} {archive after : Tar} {value : α} (spares : Spares data walk)
    (stands : ∃ position, archive.window.At data position)
    (run : walk archive = .ok (value, after)) : ∃ position, after.window.At data position := by
  have kept := spares archive stands
  rw [run] at kept
  exact kept

theorem spares_pure (value : α) : Spares data (pure value) :=
  fun _ stands => stands

theorem spares_throw {fault : ArchiveFault} (other : fault ≠ .damagedData) :
    Spares data (throw fault : Walk α) :=
  fun _ _ => other

theorem Spares.bind {walk : Walk α} {next : α → Walk β} (first : Spares data walk)
    (second : ∀ value, Spares data (next value)) : Spares data (walk >>= next) := by
  intro archive stands
  have step := first archive stands
  rw [bind_apply]
  cases run : walk archive with
  | error fault =>
    rw [run] at step
    exact step
  | ok result =>
    rw [run] at step
    exact second result.1 result.2 step

theorem spares_lift {value : Except ArchiveFault α}
    (other : value ≠ .error .damagedData) : Spares data (liftM value : Walk α) := by
  intro archive stands
  cases value with
  | ok value => exact stands
  | error fault => exact fun damaged => other (by rw [damaged])

theorem spares_get : Spares data (get : Walk Tar) :=
  fun _ stands => stands

theorem spares_setNext (next : Int) : Spares data (setNext next) :=
  fun _ stands => stands

theorem spares_setFacts (facts : Records) :
    Spares data (modify fun archive => { archive with facts := facts } : Walk Unit) :=
  fun _ stands => stands

theorem spares_tell : Spares data tell := by
  rintro archive ⟨position, stands⟩
  rw [tell, ofReader, stands.tell]
  exact ⟨position, stands⟩

theorem spares_read (count : Int) : Spares data (read count) := by
  rw [read]
  split
  · exact spares_throw (by decide)
  · split
    · exact spares_throw (by decide)
    · split
      · exact spares_throw (by decide)
      · rintro archive ⟨position, stands⟩
        obtain ⟨after, ran, stands_, -⟩ := stands.read count.toNat
        rw [ofReader, ran]
        exact ⟨_, stands_⟩

theorem spares_seek (place : Int) : Spares data (seek place) := by
  rw [seek]
  split
  · exact spares_throw (by decide)
  · rintro archive ⟨position, stands⟩
    obtain ⟨after, ran, stands_, -⟩ := stands.seek place
    rw [ofReader, ran]
    exact ⟨_, stands_⟩

end Walk

/-! ## Headers -/

theorem requireNumber_ne_damaged (number : Option Int) :
    requireNumber number ≠ .error .damagedData := by
  cases number <;> nofun

theorem map_ne_damaged {α β : Type} {value : Except ArchiveFault α} (f : α → β)
    (other : value ≠ .error .damagedData) : value.map f ≠ .error .damagedData := by
  cases value with
  | ok value => nofun
  | error fault =>
    intro damaged
    cases damaged
    exact other rfl

theorem numberLine_ne_damaged (bytes : List UInt8) :
    numberLine bytes ≠ .error .damagedData := by
  rw [numberLine]
  split
  · nofun
  · exact map_ne_damaged _ (requireNumber_ne_damaged _)

theorem mapM_ne_damaged {α β : Type} {f : α → Except ArchiveFault β}
    (other : ∀ item, f item ≠ .error .damagedData) (items : List α) :
    items.mapM f ≠ .error .damagedData := by
  induction items with
  | nil => nofun
  | cons item items ih =>
    rw [List.mapM_cons]
    cases first : f item with
    | error fault =>
      intro damaged
      cases damaged
      exact other item first
    | ok value =>
      cases rest : items.mapM f with
      | error fault => exact fun damaged => ih (rest.trans damaged)
      | ok values => nofun

theorem applyRecord_ne_damaged (entry : Entry) (key value : List UInt8) :
    entry.applyRecord key value ≠ .error .damagedData := by
  rw [Entry.applyRecord]
  split
  · nofun
  · split
    · exact map_ne_damaged _ (requireNumber_ne_damaged _)
    · split
      · nofun
      · split <;> nofun

theorem applyRecords_ne_damaged (entry : Entry) (records : Records) :
    entry.applyRecords records ≠ .error .damagedData := by
  induction records generalizing entry with
  | nil => nofun
  | cons record records ih =>
    obtain ⟨key, value⟩ := record
    rw [Entry.applyRecords]
    split
    · next fault failed =>
      intro damaged
      cases damaged
      exact applyRecord_ne_damaged entry key value failed
    · exact ih _

open Walk

variable {data : List UInt8}

theorem spares_readNumberLines (count : Nat) (bytes : List UInt8) :
    Spares data (readNumberLines count bytes) := by
  induction count generalizing bytes with
  | zero => exact spares_pure []
  | succ count ih =>
    have lines (more : List UInt8) : Spares data
        ((liftM (numberLine (bytes ++ more)) : Walk (Int × List UInt8)) >>= fun result =>
          readNumberLines count result.2 >>= fun rest => pure (result.1 :: rest)) :=
      (spares_lift (numberLine_ne_damaged _)).bind fun result =>
        (ih result.2).bind fun rest => spares_pure (result.1 :: rest)
    rw [readNumberLines]
    split
    · exact (spares_pure []).bind lines
    · exact (spares_read _).bind lines

theorem spares_readExtents (entry : Entry) : Spares data (readExtents entry) := by
  rw [readExtents]
  exact (spares_read _).bind fun block =>
    (spares_lift (numberLine_ne_damaged block)).bind fun result =>
      (spares_readNumberLines _ _).bind fun numbers =>
        spares_tell.bind fun place => spares_pure _

theorem spares_applySparse (own facts : Records) (entry : Entry) :
    Spares data (applySparse own facts entry) := by
  rw [applySparse]
  split
  · exact (spares_lift (mapM_ne_damaged (fun bytes => requireNumber_ne_damaged _) _)).bind
      fun numbers => spares_pure _
  · split
    · split <;> exact spares_pure _
    · split
      · exact (spares_readExtents entry).bind fun entry => spares_pure _
      · exact spares_pure _

theorem spares_continuedExtents (fuel : Nat) : Spares data (continuedExtents fuel) := by
  induction fuel with
  | zero => exact spares_pure _
  | succ fuel ih =>
    rw [continuedExtents]
    refine (spares_read _).bind fun block => ?_
    split
    · exact spares_pure _
    · exact spares_throw (by decide)
    · dsimp only
      split
      · exact spares_pure _
      · refine ih.bind fun later => ?_
        split <;> exact spares_pure _

theorem spares_plainEntry (header : Header) : Spares data (plainEntry header) := by
  rw [plainEntry]
  exact spares_tell.bind fun place => (spares_setNext _).bind fun _ =>
    spares_get.bind fun archive => (spares_lift (applyRecords_ne_damaged _ _)).bind fun entry =>
      spares_pure _

theorem spares_sparseEntry (fuel : Nat) (header : Header) :
    Spares data (sparseEntry fuel header) := by
  rw [sparseEntry]
  split
  · refine (spares_continuedExtents fuel).bind fun continued => ?_
    cases continued with
    | error fault => exact spares_pure _
    | ok continued =>
      exact spares_tell.bind fun place => (spares_setNext _).bind fun _ => spares_pure _
  · refine (spares_pure _).bind fun continued => ?_
    cases continued with
    | error fault => exact spares_pure _
    | ok continued =>
      exact spares_tell.bind fun place => (spares_setNext _).bind fun _ => spares_pure _

theorem spares_following (result : Except HeaderFault Entry) : Spares data (following result) := by
  cases result with
  | ok entry => exact spares_pure _
  | error fault => exact spares_throw (by decide)

theorem spares_readEntry (bound left : Nat) : Spares data (readEntry bound left) := by
  induction left with
  | zero => exact spares_throw (by decide)
  | succ left ih =>
    rw [readEntry]
    refine (spares_read _).bind fun block => ?_
    split
    · exact spares_pure _
    · next header _ =>
      split
      case h_1 | h_2 =>
        exact (spares_read _).bind fun text => ih.bind fun result =>
          (spares_following result).bind fun entry => spares_pure _
      case h_3 _ isExtended =>
        refine (spares_read _).bind fun bytes => ?_
        split
        · exact spares_pure _
        · refine spares_get.bind fun archive => ?_
          simp only [isExtended, reduceCtorEq, if_false]
          refine ih.bind fun result => (spares_following result).bind fun entry =>
            spares_get.bind fun archive => (spares_applySparse _ _ _).bind fun result => ?_
          split
          · exact spares_pure _
          · refine (spares_lift (applyRecords_ne_damaged _ _)).bind fun entry => ?_
            split
            · exact (spares_setNext _).bind fun _ => spares_pure _
            · exact spares_pure _
      case h_4 _ isGlobal =>
        refine (spares_read _).bind fun bytes => ?_
        split
        · exact spares_pure _
        · refine spares_get.bind fun archive => ?_
          simp only [isGlobal, if_true]
          refine (spares_setFacts _).bind fun _ => ih.bind fun result =>
            (spares_following result).bind fun entry => spares_get.bind fun archive =>
              (spares_applySparse _ _ _).bind fun result => ?_
          split <;> exact spares_pure _
      case h_5 => exact spares_sparseEntry bound header
      case h_6 => exact (spares_plainEntry header).bind fun entry => spares_pure _

/-! ## Walks -/

namespace Tar

theorem spares_goToNext : Spares data goToNext := by
  refine spares_get.bind fun archive => spares_tell.bind fun place => ?_
  split
  · exact spares_pure _
  · split
    · exact spares_pure _
    · refine (spares_seek _).bind fun _ => (spares_read _).bind fun byte => ?_
      split
      · exact spares_throw (by decide)
      · exact spares_pure _

theorem spares_entryAtHeader (bound : Nat) : Spares data (entryAtHeader bound) := by
  intro archive stands
  have spares := spares_readEntry bound mostHeaders archive stands
  rw [entryAtHeader]
  cases run : readEntry bound mostHeaders archive with
  | ok result =>
    rw [run] at spares
    exact spares
  | error fault =>
    rw [run] at spares
    cases fault with
    | damagedData => exact absurd rfl spares
    | _ => exact spares

theorem spares_nextEntry (bound : Nat) : Spares data (nextEntry bound) := by
  refine spares_goToNext.bind fun more => ?_
  split
  · refine (spares_entryAtHeader bound).bind fun result => ?_
    split
    · exact spares_pure _
    · exact spares_pure _
    · refine spares_get.bind fun archive => ?_
      split
      · exact spares_throw (by decide)
      · exact spares_pure _
  · exact spares_pure _

end Tar

end RegistryMend.Archive
