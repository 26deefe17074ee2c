import RegistryMend.Proofs.Decimal.Numerals
import RegistryMend.Proofs.Repair.GuardedWrites

/-! # Clients of the store

Any number of clients read and write package roots, each request in a transaction of its own and the
requests in any order. The revision of a package grows with every write that succeeds, so a write
that expects the revision of an earlier reading succeeds only if nothing was written in between.
-/

namespace RegistryMend.Repair

open RegistryMend.Json (Members Value)
open RegistryMend.Package (Id Root)
open RegistryMend.Sql (Literal)
open RegistryMend.Storage (Database RootKey RootRow guardAccepts revisionText)

/-! ## Exchanges -/

/-- A request of a client and how it ended. -/
structure Exchange (γ : Type) where
  client : γ
  request : Request
  result : Except Failure (Option Root)

namespace Exchange

variable {γ : Type}

/-- Whether the root of a package was written. -/
def writes (key : RootKey) (exchange : Exchange γ) : Bool :=
  match exchange.request, exchange.result with
  | .write repository id _ _, .ok _ => repository == key.1 && id.text == ↑key.2
  | _, _ => false

/-- Whether the root of a package was written in place of an expected revision. -/
def swaps (key : RootKey) (expected : String) (exchange : Exchange γ) : Bool :=
  match exchange.request with
  | .write _ _ (some text) _ => text == expected && exchange.writes key
  | _ => false

/-- The exchange takes one database to another. -/
def Served (exchange : Exchange γ) (db after : Database) : Prop :=
  Work.Runs exchange.request.transaction db exchange.result after #[]

section Serve

variable (client : γ) {repository : String} {id : Id} {packageId : String}
  {expected : Option String} {root : Root} {db after : Database} {failure : Failure}

theorem served_read (named : id.text = ↑packageId) :
    Served ⟨client, .read repository id, db.getRoot (repository, packageId)⟩ db db :=
  Request.read_runs named

theorem served_write (named : id.text = ↑packageId)
    (put : db.putRoot (repository, packageId) expected root = .ok after) :
    Served ⟨client, .write repository id expected root, .ok none⟩ db after :=
  Request.write_runs named put

theorem served_refused (named : id.text = ↑packageId)
    (put : db.putRoot (repository, packageId) expected root = .error failure) :
    Served ⟨client, .write repository id expected root, .error failure⟩ db db :=
  Request.write_runs_error named put

end Serve

/-- Every request of a client is served. -/
theorem exists_served (client : γ) (request : Request) (db : Database) :
    ∃ result after, Served ⟨client, request, result⟩ db after :=
  ⟨request.answer db, request.after db, request.transaction_runs db⟩

variable {exchange : Exchange γ} {db after : Database}

/-- A reading gives what the database has and leaves it as it is. -/
theorem Served.read {client : γ} {repository : String} {id : Id}
    {result : Except Failure (Option Root)}
    (served : Served ⟨client, .read repository id, result⟩ db after) :
    result = (db.keyFor repository id >>= db.getRoot) ∧ after = db := by
  obtain ⟨same, left, -⟩ :=
    Work.Runs.unique served (Request.transaction_runs (.read repository id) db)
  exact ⟨same, left⟩

/-- A write meets its guard and leaves the document, or fails and changes nothing. -/
theorem Served.write {client : γ} {repository : String} {id : Id} {expected : Option String}
    {root : Root} {result : Except Failure (Option Root)}
    (served : Served ⟨client, .write repository id expected root, result⟩ db after) :
    (result = .ok none ∧ ∃ packageId : String, id.text = ↑packageId ∧
      db.Passes (repository, packageId) expected ∧
        after = db.written (repository, packageId) root) ∨
      (∃ failure, result = .error failure) ∧ after = db := by
  obtain ⟨same, left, -⟩ :=
    Work.Runs.unique served (Request.transaction_runs (.write repository id expected root) db)
  rw [Request.answer] at same
  rw [Request.after] at left
  cases put : db.keyFor repository id >>= fun key => db.putRoot key expected root with
  | error failure =>
    rw [put] at same left
    exact .inr ⟨⟨failure, same⟩, left⟩
  | ok written =>
    rw [put] at same left
    obtain ⟨⟨_, packageId⟩, key, put⟩ := bind_eq_ok_iff.mp put
    obtain ⟨rfl, named⟩ := Database.keyFor_eq_ok_iff.mp key
    obtain ⟨passes, rfl⟩ := Database.putRoot_eq_ok put
    exact .inl ⟨same, packageId, named, passes, left⟩

/-- A write that succeeds has written the root of the package that it names. -/
theorem writes_write_iff {client : γ} {key : RootKey} {repository packageId : String} {id : Id}
    (named : id.text = ↑packageId) {expected : Option String} {root : Root} {given : Option Root} :
    writes key ⟨client, .write repository id expected root, .ok given⟩ = true ↔
      key = (repository, packageId) := by
  change (repository == key.1 && id.text == ↑key.2) = true ↔ _
  rw [named, Bool.and_eq_true, beq_iff_eq, beq_iff_eq, WideText.ofString_inj, Prod.ext_iff,
    eq_comm (a := repository), eq_comm (a := packageId)]

/-- The row of a package gets its next revision if it is written, and else keeps what it has. -/
theorem Served.revision? (served : exchange.Served db after) (key : RootKey) :
    after.revision? key =
      if exchange.writes key then some (db.revision key + 1) else db.revision? key := by
  obtain ⟨client, request, result⟩ := exchange
  cases request with
  | read repository id =>
    obtain ⟨-, rfl⟩ := served.read
    rfl
  | write repository id expected root =>
    rcases served.write with ⟨rfl, packageId, named, -, rfl⟩ | ⟨⟨failure, rfl⟩, rfl⟩
    · by_cases same : key = (repository, packageId)
      · rw [if_pos ((writes_write_iff named).mpr same), same]
        exact Database.revision?_written_self ..
      · rw [if_neg fun written => same ((writes_write_iff named).mp written)]
        exact Database.revision?_written_of_ne _ _ _ same
    · rfl

theorem writes_of_swaps {key : RootKey} {expected : String}
    (swapped : exchange.swaps key expected = true) : exchange.writes key = true := by
  rw [swaps.eq_def] at swapped
  split at swapped
  · exact (Bool.and_eq_true_iff.mp swapped).2
  · cases swapped

/-- A row that is written in place of an expected revision has it. -/
theorem Served.expected_of_swaps {key : RootKey} {expected : String}
    (served : exchange.Served db after) (swapped : exchange.swaps key expected = true) :
    revisionText (db.revision? key) = expected := by
  have written := writes_of_swaps swapped
  obtain ⟨client, request, result⟩ := exchange
  rw [swaps.eq_def] at swapped
  split at swapped
  · next repository id text root same =>
    cases same
    obtain ⟨rfl, -⟩ := (Bool.and_eq_true_iff.mp swapped).imp_left eq_of_beq
    rcases served.write with ⟨rfl, packageId, named, passes, -⟩ | ⟨⟨failure, rfl⟩, -⟩
    · rw [(writes_write_iff named).mp written]
      exact Storage.guardAccepts_some.mp passes.met
    · cases written
  · cases swapped

end Exchange

/-! ## Histories -/

/-- The exchanges of all clients one after the other, and the databases before and after them. -/
inductive History {γ : Type} : Database → List (Exchange γ) → Database → Prop
  | nil (db : Database) : History db [] db
  | cons {exchange : Exchange γ} {rest : List (Exchange γ)} {db middle after : Database}
      (first : exchange.Served db middle) (later : History middle rest after) :
      History db (exchange :: rest) after

/-- How often the root of a package was written. -/
def countWrites {γ : Type} (key : RootKey) (exchanges : List (Exchange γ)) : Nat :=
  exchanges.countP (·.writes key)

namespace History

variable {γ : Type} {db after : Database} {exchanges : List (Exchange γ)}

/-- The requests of clients have a history in every order. -/
theorem exists_history (db : Database) (requests : List (γ × Request)) :
    ∃ exchanges after, History db exchanges after ∧
      exchanges.map (fun exchange => (exchange.client, exchange.request)) = requests := by
  induction requests generalizing db with
  | nil => exact ⟨[], db, .nil db, rfl⟩
  | cons first rest ih =>
    obtain ⟨client, request⟩ := first
    obtain ⟨result, middle, served⟩ := Exchange.exists_served client request db
    obtain ⟨exchanges, after, later, same⟩ := ih middle
    exact ⟨⟨client, request, result⟩ :: exchanges, after, .cons served later, by simp [same]⟩

theorem append {first second : List (Exchange γ)} (history : History db (first ++ second) after) :
    ∃ middle, History db first middle ∧ History middle second after := by
  induction first generalizing db with
  | nil => exact ⟨db, .nil db, history⟩
  | cons exchange rest ih =>
    cases history with
    | cons served later =>
      obtain ⟨middle, before, behind⟩ := ih later
      exact ⟨middle, .cons served before, behind⟩

/-- The row of a package has as many revisions more as it was written. -/
theorem revision? (history : History db exchanges after) (key : RootKey) :
    after.revision? key =
      if countWrites key exchanges = 0 then db.revision? key
      else some (db.revision key + countWrites key exchanges) := by
  induction history with
  | nil => rfl
  | @cons exchange rest db middle after first later ih =>
    have step := first.revision? key
    rw [ih, middle.revision_eq, step, countWrites, countWrites, List.countP_cons]
    by_cases written : exchange.writes key = true
    · rw [if_pos written, if_pos written, if_neg (Nat.succ_ne_zero _), Option.getD_some]
      split
      · next none_ =>
        rw [none_]
        rfl
      · push_cast
        rw [Int.add_assoc, Int.add_comm 1]
    · rw [if_neg written, if_neg written, Nat.add_zero, db.revision_eq]

theorem revision (history : History db exchanges after) (key : RootKey) :
    after.revision key = db.revision key + countWrites key exchanges := by
  rw [after.revision_eq, history.revision?]
  split
  · next none_ => rw [none_, db.revision_eq, Int.natCast_zero, Int.add_zero]
  · rfl

/-- A row that has passed the expected revision is not written in its place. -/
theorem no_swap {key : RootKey} {expected : String} {revision : Int}
    (history : History db exchanges after) (present : db.revision? key = some revision)
    (passed : ∀ later, revision ≤ later → Decimal.integerText later ≠ expected) :
    exchanges.countP (·.swaps key expected) = 0 := by
  induction history generalizing revision with
  | nil => rfl
  | @cons exchange rest db middle after first later ih =>
    have next : ∃ revision_, middle.revision? key = some revision_ ∧ revision ≤ revision_ := by
      rw [first.revision?, Database.revision, present]
      split
      · exact ⟨revision + 1, rfl, by omega⟩
      · exact ⟨revision, rfl, Int.le_refl _⟩
    obtain ⟨revision_, present_, grown⟩ := next
    have rest_ := ih present_ fun later least => passed later (Int.le_trans grown least)
    have not_ : exchange.swaps key expected ≠ true := by
      intro swapped
      have text := first.expected_of_swaps swapped
      rw [present] at text
      exact passed revision (Int.le_refl _) text
    rw [List.countP_cons, rest_, if_neg not_]

/-- No revision is replaced twice. -/
theorem swaps_once (history : History db exchanges after) (key : RootKey) (expected : String) :
    exchanges.countP (·.swaps key expected) ≤ 1 := by
  induction history with
  | nil => exact Nat.zero_le _
  | @cons exchange rest db middle after first later ih =>
    rw [List.countP_cons]
    by_cases swapped : exchange.swaps key expected = true
    · have text := first.expected_of_swaps swapped
      have present : middle.revision? key = some (db.revision key + 1) := by
        rw [first.revision?, if_pos (Exchange.writes_of_swaps swapped)]
      have passed : ∀ later, db.revision key + 1 ≤ later →
          Decimal.integerText later ≠ expected := by
        intro later least same
        rcases revisionText_eq_iff.mp text with ⟨revision, found, text⟩ | ⟨-, rfl⟩
        · rw [Database.revision, found, Option.getD_some] at least
          have equal := Decimal.integerText_injective (text.trans same.symm)
          omega
        · exact integerText_ne_none later same
      rw [later.no_swap present passed, if_pos swapped]
    · rw [if_neg swapped]
      exact ih

/-- The text that a row shows as its revision is that of no later one. -/
theorem revision?_of_shown {row : RootRow} {revision : Int}
    (shown : row.revisionShown = Decimal.integerText revision)
    (fits : (Literal.integer (revision + 1)).fits = true) : row.revision? = some revision := by
  rw [RootRow.revisionShown] at shown
  rw [RootRow.revision?]
  cases number : row.revision with
  | null =>
    rw [number, if_pos rfl] at shown
    exact absurd shown.symm (integerText_ne_none revision)
  | integer n =>
    rw [number, if_neg (by simp)] at shown
    exact congrArg some (Decimal.integerText_injective shown)
  | real d =>
    rw [number, if_neg (by simp)] at shown
    exact absurd shown (Decimal.plainText_ne_integerText d revision)
  | text s =>
    rw [number, if_neg (by simp)] at shown
    have same : s = Decimal.integerText revision := shown
    have short : revision.natAbs < 10 ^ Text.maximalDigits := by
      rw [Literal.fits, Bool.and_eq_true, decide_eq_true_eq, decide_eq_true_eq] at fits
      have bound : 10 ^ 20 ≤ 10 ^ Text.maximalDigits :=
        Nat.pow_le_pow_right (by decide) (by decide)
      refine Nat.lt_of_lt_of_le ?_ bound
      omega
    rw [same, Storage.countOf, Decimal.integerText, String.toList_ofList,
      Decimal.readInteger?_integerChars short]
    rfl

/-- A write that expects the revision of an earlier reading finds the row as it was read. -/
theorem unwritten_between {client : γ} {repository packageId : String} {id : Id}
    (named : id.text = ↑packageId) {stored root : Root} {expected : String}
    {between rest : List (Exchange γ)}
    (history : History db (⟨client, .read repository id, .ok (some stored)⟩ ::
      (between ++ ⟨client, .write repository id (some expected) root, .ok none⟩ :: rest)) after)
    (known : Members.find? Root.revisionKey stored = some (.str ↑expected)) :
    countWrites (repository, packageId) between = 0 := by
  cases history with
  | cons first later =>
    obtain ⟨read, rfl⟩ := first.read
    obtain ⟨middle, before, behind⟩ := later.append
    rw [Database.keyFor_of_named named] at read
    obtain ⟨row, present, text⟩ := Database.revision_of_getRoot read.symm
    rw [known, Option.some.injEq, Value.str.injEq, WideText.ofString_inj] at text
    cases behind with
    | cons second =>
      rcases second.write with ⟨-, packageId_, named_, passes, -⟩ | ⟨⟨failure, failed⟩, -⟩
      · obtain rfl : packageId = packageId_ := WideText.ofString_injective (named.symm.trans named_)
        by_contra written
        have later := before.revision? (repository, packageId)
        rw [if_neg written] at later
        have found := Storage.guardAccepts_some.mp passes.met
        rw [later] at found
        -- the row that was read would have shown a revision that it only got later
        have fits := passes.fits
        rw [Database.revision, later] at fits
        have number := revision?_of_shown (text.symm.trans found.symm) fits
        rw [← Database.revision?_of_find? present] at number
        have same := congrArg (Option.getD · 0) number
        rw [← Database.revision, Option.getD_some] at same
        omega
      · cases failed

end History

/-- In every history the revision of a package grows by one with each write that succeeds, so no two
moments with a write between them have the same. A client that writes in place of the revision it has
read finds nothing written since, and of all that replace one revision at most one succeeds. -/
theorem no_lost_update {γ : Type} {db after : Database} {exchanges : List (Exchange γ)}
    (history : History db exchanges after) (key : RootKey) :
    (∀ first between last, exchanges = first ++ (between ++ last) →
      ∃ before behind, History db first before ∧ History before between behind ∧
        History behind last after ∧
        behind.revision key = before.revision key + countWrites key between ∧
        (behind.revision? key = before.revision? key → countWrites key between = 0)) ∧
    (∀ first between last client (id : Id) stored (expected : String) root, id.text = ↑key.2 →
      exchanges = first ++ ⟨client, .read key.1 id, .ok (some stored)⟩ ::
        (between ++ ⟨client, .write key.1 id (some expected) root, .ok none⟩ :: last) →
      Members.find? Root.revisionKey stored = some (.str ↑expected) →
      countWrites key between = 0) ∧
    ∀ expected, exchanges.countP (·.swaps key expected) ≤ 1 := by
  refine ⟨?_, ?_, history.swaps_once key⟩
  · rintro first between last rfl
    obtain ⟨before, earlier, later⟩ := history.append
    obtain ⟨behind, within, later⟩ := later.append
    refine ⟨before, behind, earlier, within, later, within.revision key, ?_⟩
    intro same
    have grown := within.revision key
    rw [Database.revision, same, ← Database.revision] at grown
    omega
  · rintro first between last client id stored expected root named rfl known
    obtain ⟨before, -, later⟩ := history.append
    exact later.unwritten_between named known

/-- After an unguarded write two clients read the same revision, and both want to replace it. -/
theorem no_lost_update_seeded :
    let key : RootKey := ("r", "a")
    let read : Request := .read "r" Storage.plainId
    let write (expected : Option String) : Request := .write "r" Storage.plainId expected []
    ∃ (stored : Root) (refusal : Failure) (after : Database),
      let between : List (Exchange Nat) := [⟨1, read, .ok (some stored)⟩]
      let exchanges : List (Exchange Nat) := ⟨2, write none, .ok none⟩ ::
        ⟨0, read, .ok (some stored)⟩ :: (between ++
          [⟨0, write (some "5"), .ok none⟩, ⟨1, write (some "5"), .error refusal⟩])
      History Storage.seededDatabase exchanges after ∧
        Members.find? Root.revisionKey stored = some (.str ↑"5") ∧
        countWrites key between = 0 ∧ after.revision key = 6 ∧
        exchanges.countP (·.swaps key "5") ≤ 1 := by
  intro key read write
  have named : Storage.plainId.text = ↑"a" := rfl
  let before : Database := Storage.seededDatabase
  let middle : Database := before.written key []
  let after : Database := middle.written key []
  have accepts : before.Accepts key ∧ middle.Accepts key ∧ after.Accepts key := by decide +kernel
  have met : guardAccepts (some "5") (middle.revision? key) = true := by decide +kernel
  have unmet : ¬guardAccepts (some "5") (after.revision? key) = true := by decide +kernel
  have first : Exchange.Served ⟨2, write none, .ok none⟩ before middle :=
    Exchange.served_write 2 named ((accepts.1.putRoot none []).trans (if_pos rfl))
  obtain ⟨stored, found⟩ : ∃ stored, middle.getRoot key = .ok (some stored) :=
    ⟨_, Database.getRoot_written accepts.1.usable Members.storable_nil⟩
  obtain ⟨refusal, refused⟩ : ∃ refusal, after.putRoot key (some "5") [] = .error refusal :=
    ⟨_, (accepts.2.2.putRoot (some "5") []).trans (if_neg unmet)⟩
  have reading (client : Nat) : Exchange.Served ⟨client, read, .ok (some stored)⟩ middle middle := by
    rw [← found]
    exact Exchange.served_read client named
  have second : Exchange.Served ⟨0, write (some "5"), .ok none⟩ middle after :=
    Exchange.served_write 0 named ((accepts.2.1.putRoot (some "5") []).trans (if_pos met))
  have third : Exchange.Served ⟨1, write (some "5"), .error refusal⟩ after after :=
    Exchange.served_refused 1 named refused
  have history := History.cons first (.cons (reading 0) (.cons (reading 1)
    (.cons second (.cons third (.nil after)))))
  have known : Members.find? Root.revisionKey stored = some (.str ↑"5") := by
    obtain ⟨row, present, text⟩ := Database.revision_of_getRoot found
    have five : (middle.roots.find? key).map RootRow.revisionShown = some "5" := by decide +kernel
    rw [present] at five
    rw [text, Option.some.inj five]
  obtain ⟨-, unwritten, once⟩ := no_lost_update history key
  exact ⟨stored, refusal, after, history, known,
    unwritten [⟨2, write none, .ok none⟩] _ _ 0 Storage.plainId _ "5" [] named rfl known,
    by decide +kernel, once "5"⟩

end RegistryMend.Repair
