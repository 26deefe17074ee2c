import Mathlib.Data.List.Induction
import Mathlib.Data.List.Infix
import RegistryMend.Proofs.Assoc
import RegistryMend.Proofs.Storage.BlobPlaces

/-! # Trees in which everything lies in a directory

Writing and removing keep it so, and directories are never lost. Names then lead to a file exactly
if they are short enough and each is followed from a directory, and what is written where names
lead is read there.
-/

namespace RegistryMend.Storage

namespace Tree

/-! ## Grounded trees -/

/-- Everything in the tree lies in a directory. -/
def Grounded (tree : Tree) : Prop :=
  ∀ entry ∈ tree.nodes, tree.node? entry.1.dropLast = some .directory

instance (tree : Tree) : Decidable tree.Grounded :=
  inferInstanceAs (Decidable (∀ entry ∈ tree.nodes, _))

theorem grounded_empty : Grounded {} := by
  intro entry inside
  cases inside

theorem node?_of_not_below (tree : Tree) {place : Place} (above : ¬IsBelow place) :
    tree.node? place = some .directory := by
  rw [IsBelow, Bool.not_eq_false] at above
  rw [node?, if_pos above]

theorem Grounded.above {tree : Tree} (grounded : tree.Grounded) {place : Place} {node : Node}
    (found : tree.node? place = some node) : tree.node? place.dropLast = some .directory := by
  by_cases up : place.all (· = "..")
  · have further : place.dropLast.all (· = "..") := by
      rw [List.all_eq_true] at up ⊢
      exact fun name inside => up name (List.mem_of_mem_dropLast inside)
    rw [node?, if_pos further]
  · rw [node?, if_neg up] at found
    exact grounded (place, node) (Assoc.mem_of_lookup found)

/-- All that lies over a place at which something is found is a directory. -/
theorem Grounded.over {tree : Tree} (grounded : tree.Grounded) {place rest : Place} {node : Node}
    (found : tree.node? (place ++ rest) = some node) (proper : rest ≠ []) :
    tree.node? place = some .directory := by
  induction rest using List.reverseRecOn generalizing node with
  | nil => exact absurd rfl proper
  | append_singleton front last ih =>
    have directory := grounded.above found
    rw [← List.append_assoc, List.dropLast_concat] at directory
    by_cases short : front = []
    · rwa [short, List.append_nil] at directory
    · exact ih directory short

theorem Grounded.step {tree : Tree} (grounded : tree.Grounded) {place : Place}
    (directory : tree.node? place = some .directory) (name : String) :
    tree.node? (Path.step place name).dropLast = some .directory := by
  rw [Path.step]
  split
  · rwa [List.dropLast_concat]
  · exact grounded.above (grounded.above directory)

/-! ## Walking -/

theorem follow_eq_ok {tree : Tree} {place next : Place} {name : String} :
    tree.follow place name = .ok next ↔ tree.node? place = some .directory ∧
      name.utf8ByteSize ≤ longestName ∧ Path.step place name = next := by
  rw [follow]
  split
  · next missing => simp [missing]
  · next file => simp [file]
  · next directory =>
    split
    · next long => simp [Nat.not_le.mpr long]
    · next short => simp [directory, Nat.not_lt.mp short]

/-- Each of the names is short enough, and what comes before it leads to a directory. -/
def Passes (tree : Tree) (start : Place) (names : List String) : Prop :=
  ∀ front name rest, names = front ++ name :: rest →
    tree.node? (front.foldl Path.step start) = some .directory ∧ name.utf8ByteSize ≤ longestName

theorem passes_cons {tree : Tree} {start : Place} {name : String} {rest : List String} :
    tree.Passes start (name :: rest) ↔ (tree.node? start = some .directory ∧
      name.utf8ByteSize ≤ longestName) ∧ tree.Passes (Path.step start name) rest := by
  constructor
  · intro passes
    refine ⟨passes [] name rest rfl, fun front other behind split => ?_⟩
    exact passes (name :: front) other behind (by rw [split, List.cons_append])
  · rintro ⟨first, further⟩ front other behind split
    cases front with
    | nil =>
      obtain ⟨rfl, -⟩ := List.cons.inj split
      exact first
    | cons _ front =>
      rw [List.cons_append] at split
      obtain ⟨rfl, later⟩ := List.cons.inj split
      exact further front other behind later

/-- Names are followed to their place exactly if each is followed from a directory. -/
theorem foldlM_follow_eq_ok {tree : Tree} {start place : Place} {names : List String} :
    names.foldlM tree.follow start = .ok place ↔
      tree.Passes start names ∧ names.foldl Path.step start = place := by
  induction names generalizing start with
  | nil =>
    have nothing : tree.Passes start [] := fun front name rest split => by simp at split
    simp only [List.foldlM_nil, List.foldl_nil, nothing, true_and]
    exact ⟨fun same => Except.ok.inj same, fun same => congrArg Except.ok same⟩
  | cons name rest ih =>
    rw [List.foldlM_cons, List.foldl_cons, passes_cons, and_assoc]
    constructor
    · intro leads
      cases first : tree.follow start name with
      | error fault => rw [first] at leads; cases leads
      | ok next =>
        rw [first] at leads
        obtain ⟨directory, short, rfl⟩ := follow_eq_ok.mp first
        exact ⟨⟨directory, short⟩, ih.mp leads⟩
    · rintro ⟨⟨directory, short⟩, further⟩
      rw [follow_eq_ok.mpr ⟨directory, short, rfl⟩]
      exact ih.mpr further

theorem walk_eq_ok {tree : Tree} {place : Place} {names : List String} :
    tree.walk names = .ok place ↔ ("/".intercalate names).utf8ByteSize ≤ longestPath ∧
      tree.Passes [] names ∧ Path.resolve names = place := by
  rw [walk]
  split
  · next long => simp [Nat.not_le.mpr long]
  · next short =>
    rw [foldlM_follow_eq_ok, Path.resolve]
    exact ⟨fun leads => ⟨Nat.not_lt.mp short, leads⟩, fun leads => leads.2⟩

/-! ## Writing -/

/-- The directories of the one tree are directories of the other, in which everything lies in a
directory. -/
structure Grown (tree after : Tree) : Prop where
  stays : ∀ place, tree.node? place = some .directory → after.node? place = some .directory
  grounded : after.Grounded

theorem Grown.refl {tree : Tree} (grounded : tree.Grounded) : Grown tree tree :=
  ⟨fun _ directory => directory, grounded⟩

theorem Grown.trans {tree middle after : Tree} (first : Grown tree middle)
    (second : Grown middle after) : Grown tree after :=
  ⟨fun place directory => second.stays place (first.stays place directory), second.grounded⟩

theorem Grown.put {tree : Tree} (grounded : tree.Grounded) {place : Place} {node : Node}
    (above : tree.node? place.dropLast = some .directory)
    (keeps : node = .directory ∨ tree.node? place ≠ some .directory) :
    Grown tree (tree.put place node) := by
  have stays : ∀ other, tree.node? other = some .directory →
      (tree.put place node).node? other = some .directory := by
    intro other directory
    by_cases same : other = place
    · subst same
      obtain rfl : node = .directory := keeps.resolve_right (not_not_intro directory)
      by_cases below : IsBelow other
      · exact node?_put_self tree _ below
      · exact node?_of_not_below _ below
    · rwa [node?_put_of_ne tree node same]
  refine ⟨stays, fun entry inside => stays _ ?_⟩
  rcases Assoc.eq_or_mem_of_mem_insert inside with rfl | before
  · exact above
  · exact grounded entry before

theorem Grown.makeFrom {tree : Tree} (grounded : tree.Grounded) {place : Place}
    (above : tree.node? place.dropLast = some .directory) (names : List String) :
    Grown tree (tree.makeFrom place names).1 := by
  induction names generalizing tree place with
  | nil =>
    rw [Tree.makeFrom]
    split
    · exact Grown.put grounded above (.inl rfl)
    · exact Grown.refl grounded
    · exact Grown.refl grounded
  | cons name rest ih =>
    have made : Grown tree (if (tree.node? place).isNone then tree.put place .directory
        else tree) := by
      split
      · exact Grown.put grounded above (.inl rfl)
      · exact Grown.refl grounded
    rw [Tree.makeFrom]
    split
    · exact made
    · next below followed =>
      obtain ⟨directory, -, rfl⟩ := follow_eq_ok.mp followed
      exact made.trans (ih made.grounded (made.grounded.step directory name))

theorem Grown.writeFile {tree after : Tree} (grounded : tree.Grounded) {names : List String}
    {content : Bytes} (written : tree.writeFile names content = .ok after) : Grown tree after := by
  rw [Tree.writeFile] at written
  split at written
  · cases written
  · next place leads =>
    split at written
    · cases written
    · next noDirectory =>
      cases written
      refine Grown.put grounded ?_ (.inr noDirectory)
      obtain ⟨-, passes, rfl⟩ := walk_eq_ok.mp leads
      rcases List.eq_nil_or_concat names with rfl | ⟨front, last, rfl⟩
      · rfl
      · rw [List.concat_eq_append] at passes ⊢
        rw [resolve_append, List.foldl_cons, List.foldl_nil]
        exact grounded.step (passes front last [] rfl).1 last

theorem node?_erase_of_ne (tree : Tree) {place other : Place} (differ : other ≠ place) :
    (tree.erase place).node? other = tree.node? other := by
  have kept : ∀ nodes : List (Place × Node),
      (nodes.filter fun entry => entry.1 ≠ place).lookup other = nodes.lookup other := by
    intro nodes
    induction nodes with
    | nil => rfl
    | cons entry rest ih =>
      obtain ⟨key, node⟩ := entry
      by_cases same : key = place
      · subst same
        simp only [ne_eq, decide_not] at ih
        simp [List.lookup_cons, beq_false_of_ne differ, ih]
      · simp only [ne_eq, decide_not] at ih
        simp [same, List.lookup_cons, ih]
  rw [node?, node?, erase, kept]

/-- What is removed is a file, in which nothing lies. -/
theorem Grounded.removeFile {tree after : Tree} (grounded : tree.Grounded) {names : List String}
    (removed : tree.removeFile names = .ok after) : after.Grounded := by
  rw [Tree.removeFile] at removed
  split at removed
  · cases removed
  · next place leads =>
    split at removed
    · cases removed
    · cases removed
    · next content file =>
      cases removed
      intro entry inside
      have directory := grounded entry (List.mem_of_mem_filter inside)
      have differ : entry.1.dropLast ≠ place := by
        rintro rfl
        rw [file] at directory
        cases directory
      rwa [node?_erase_of_ne tree differ]

/-! ## Reading -/

theorem readFile_eq_ok_some {tree : Tree} {names : List String} {content : Bytes} :
    tree.readFile names = .ok (some content) ↔
      tree.walk names = .ok (Path.resolve names) ∧
        tree.file? (Path.resolve names) = some content := by
  constructor
  · intro read
    obtain ⟨place, leads, found⟩ := readFile_eq_some read
    obtain rfl := walk_eq_resolve tree leads
    exact ⟨leads, found⟩
  · rintro ⟨leads, found⟩
    rw [file?] at found
    split at found
    · next node =>
      obtain rfl := Option.some.inj found
      rw [readFile, find?, leads]
      dsimp only
      rw [node]
    · cases found

/-- What has been written is read. -/
theorem readFile_of_writeFile {tree after : Tree} (grounded : tree.Grounded)
    {names : List String} {content : Bytes} (written : tree.writeFile names content = .ok after) :
    after.readFile names = .ok (some content) := by
  have grown := Grown.writeFile grounded written
  rw [writeFile] at written
  split at written
  · cases written
  · next place leads =>
    split at written
    · cases written
    · next noDirectory =>
      cases written
      obtain ⟨fits, passes, rfl⟩ := walk_eq_ok.mp leads
      have below : IsBelow (Path.resolve names) :=
        not_imp_comm.mp (node?_of_not_below tree) noDirectory
      refine readFile_eq_ok_some.mpr ⟨walk_eq_ok.mpr ⟨fits, ?_, rfl⟩, ?_⟩
      · exact fun front name rest split =>
          (passes front name rest split).imp_left (grown.stays _)
      · rw [file?, node?_put_self tree _ below]

theorem fault_of_follow {tree : Tree} {place : Place} {name : String} {fault : FileFault}
    (failed : tree.follow place name = .error fault) :
    (fault = .missing ∨ fault = .notDirectory) ∨
      fault = .nameTooLong ∧ longestName < name.utf8ByteSize := by
  rw [follow] at failed
  split at failed
  · exact .inl (.inl (Except.error.inj failed).symm)
  · exact .inl (.inr (Except.error.inj failed).symm)
  · split at failed
    · next long => exact .inr ⟨(Except.error.inj failed).symm, long⟩
    · cases failed

/-- Names only fail to lead anywhere because something is missing or no directory, or because one
of them is too long. -/
theorem fault_of_foldlM {tree : Tree} {start : Place} {names : List String} {fault : FileFault}
    (failed : names.foldlM tree.follow start = .error fault) :
    (fault = .missing ∨ fault = .notDirectory) ∨
      fault = .nameTooLong ∧ ∃ name ∈ names, longestName < name.utf8ByteSize := by
  induction names generalizing start with
  | nil => cases failed
  | cons name rest ih =>
    rw [List.foldlM_cons] at failed
    cases first : tree.follow start name with
    | ok next =>
      rw [first] at failed
      obtain found | ⟨same, other, inside, long⟩ := ih failed
      · exact .inl found
      · exact .inr ⟨same, other, List.mem_cons_of_mem _ inside, long⟩
    | error early =>
      rw [first] at failed
      cases failed
      obtain found | ⟨same, long⟩ := fault_of_follow first
      · exact .inl found
      · exact .inr ⟨same, name, List.mem_cons_self .., long⟩

/-- Nothing can be read only where the path or one of its names is too long. -/
theorem fault_of_readFile {tree : Tree} {names : List String} {fault : FileFault}
    (failed : tree.readFile names = .error fault) :
    fault = .nameTooLong ∧ (longestPath < ("/".intercalate names).utf8ByteSize ∨
      ∃ name ∈ names, longestName < name.utf8ByteSize) := by
  rw [readFile, find?, walk] at failed
  by_cases long : longestPath < ("/".intercalate names).utf8ByteSize
  · rw [if_pos long] at failed
    cases failed
    exact ⟨rfl, .inl long⟩
  · rw [if_neg long] at failed
    cases leads : names.foldlM tree.follow [] with
    | ok place =>
      rw [leads] at failed
      dsimp only at failed
      cases found : tree.node? place with
      | none => simp [found] at failed
      | some node => cases node <;> simp [found] at failed
    | error early =>
      rw [leads] at failed
      rcases fault_of_foldlM leads with (rfl | rfl) | ⟨rfl, tooLong⟩
      · cases failed
      · cases failed
      · cases failed
        exact ⟨rfl, .inr tooLong⟩

/-- Short names of a short path can be read in every tree. -/
theorem exists_readFile {names : List String}
    (fits : ("/".intercalate names).utf8ByteSize ≤ longestPath)
    (short : ∀ name ∈ names, name.utf8ByteSize ≤ longestName) (tree : Tree) :
    ∃ found, tree.readFile names = .ok found := by
  cases read : tree.readFile names with
  | ok found => exact ⟨found, rfl⟩
  | error fault =>
    rcases (fault_of_readFile read).2 with long | ⟨name, inside, long⟩
    · exact absurd fits (Nat.not_le.mpr long)
    · exact absurd (short name inside) (Nat.not_le.mpr long)

end Tree

end RegistryMend.Storage
