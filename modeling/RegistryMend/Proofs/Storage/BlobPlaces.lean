import Mathlib.Data.List.Basic
import RegistryMend.Storage.BlobFiles

/-! # Where the files of blobs lie

The name of a blob's file holds no slash, so its path adds one name for the directory and one for
the file. Both stay what they are, or vanish, unless the name starts with two dots: then the
directory is the one above, and the file lies there.
-/

namespace RegistryMend.Storage

/-! ## Names -/

/-- A place is inside a directory: it is the directory or lies below it. -/
def Inside (directory place : Place) : Prop :=
  ∃ rest, place = directory ++ rest ∧ ".." ∉ rest

/-- The name for a reference starts with two dots. -/
def Climbs (ref : String) : Prop :=
  ['.', '.'] <+: blobName ref

instance (ref : String) : Decidable (Climbs ref) :=
  inferInstanceAs (Decidable (['.', '.'] <+: blobName ref))

theorem slash_notMem_blobName (ref : String) : '/' ∉ blobName ref := by
  intro inside
  obtain ⟨c, -, written⟩ := List.mem_map.mp inside
  by_cases safe : isSafe c
  · rw [if_pos safe] at written
    rw [written] at safe
    revert safe
    decide +kernel
  · rw [if_neg safe] at written
    cases written

theorem namesIn_of_noSlash {cs : List Char} (apart : '/' ∉ cs) :
    Path.namesIn cs = if cs = [] ∨ cs = ['.'] then [] else [String.ofList cs] := by
  have empty : String.ofList cs = "" ↔ cs = [] := String.ofList_eq_empty_iff
  have dot : String.ofList cs = "." ↔ cs = ['.'] :=
    ⟨fun same => String.ofList_injective same, fun same => congrArg String.ofList same⟩
  rw [Path.namesIn, List.splitOn_eq_singleton apart]
  simp only [List.map_cons, List.map_nil, List.filter_cons, List.filter_nil, ne_eq, empty, dot,
    Bool.and_eq_true, decide_eq_true_eq, ← not_or]
  split <;> simp_all

/-- The names that a reference adds to a path. -/
def refNames (ref : String) : List String :=
  if blobName ref = [] ∨ blobName ref = ['.'] then []
  else [String.ofList ((blobName ref).take 2), String.ofList (blobName ref)]

theorem names_blobPath (directory : Path) (ref : String) :
    (blobPath directory ref).names = directory.names ++ refNames ref := by
  have apart := slash_notMem_blobName ref
  have apart_ : '/' ∉ (blobName ref).take 2 := fun inside => apart (List.mem_of_mem_take inside)
  rw [blobPath, Path.child, Path.child, String.toList_ofList, String.toList_ofList,
    namesIn_of_noSlash apart, namesIn_of_noSlash apart_, refNames, List.append_assoc]
  -- two characters are none, or one dot, only if these are all
  have short : (blobName ref).take 2 = [] ∨ (blobName ref).take 2 = ['.'] ↔
      blobName ref = [] ∨ blobName ref = ['.'] := by
    rcases blobName ref with _ | ⟨c, _ | ⟨d, rest⟩⟩ <;> simp
  simp only [short]
  split <;> simp

theorem ofList_eq_dots {cs : List Char} : String.ofList cs = ".." ↔ cs = ['.', '.'] :=
  ⟨fun same => String.ofList_injective same, fun same => congrArg String.ofList same⟩

theorem climbs_iff (ref : String) : Climbs ref ↔ (blobName ref).take 2 = ['.', '.'] := by
  rw [Climbs, List.prefix_iff_eq_take]
  exact eq_comm

/-- The names of a reference hold double dots exactly if its name starts with them. -/
theorem dots_mem_refNames (ref : String) : ".." ∈ refNames ref ↔ Climbs ref := by
  rw [climbs_iff, refNames]
  split
  · next short => rcases short with same | same <;> simp [same]
  · constructor
    · intro inside
      simp only [List.mem_cons, List.not_mem_nil, or_false] at inside
      rcases inside with same | same
      · exact ofList_eq_dots.mp same.symm
      · rw [ofList_eq_dots.mp same.symm]
        rfl
    · intro same
      rw [same]
      exact List.mem_cons_self ..

theorem refNames_of_climbs {ref : String} (climbs : Climbs ref) :
    refNames ref = ["..", String.ofList (blobName ref)] := by
  have two := (climbs_iff ref).mp climbs
  rw [refNames, if_neg, two]
  rintro (same | same) <;> rw [same] at two <;> cases two

/-! ## Places -/

theorem resolve_append (names more : List String) :
    Path.resolve (names ++ more) = more.foldl Path.step (Path.resolve names) := by
  rw [Path.resolve, Path.resolve, List.foldl_append]

theorem foldl_step_of_no_dots {names : List String} (plain : ".." ∉ names) (place : Place) :
    names.foldl Path.step place = place ++ names := by
  induction names generalizing place with
  | nil => rw [List.foldl_nil, List.append_nil]
  | cons name rest ih =>
    rw [List.mem_cons, not_or] at plain
    have step : Path.step place name = place ++ [name] := by
      simp [Path.step, Ne.symm plain.1]
    rw [List.foldl_cons, step, ih plain.2, List.append_assoc, List.singleton_append]

/-- A reference without leading dots stays in every directory. -/
theorem inside_of_not_climbs {ref : String} (stays : ¬Climbs ref) (names : List String) :
    Inside (Path.resolve names) (Path.resolve (names ++ refNames ref)) := by
  have plain : ".." ∉ refNames ref := mt (dots_mem_refNames ref).mp stays
  exact ⟨refNames ref, by rw [resolve_append, foldl_step_of_no_dots plain], plain⟩

/-- The directory has a name, which does not start with two dots. -/
def PlainlyNamed (directory : Place) : Prop :=
  ∃ name, directory.getLast? = some name ∧ ¬['.', '.'] <+: name.toList

theorem not_inside_of_climbs {ref : String} (climbs : Climbs ref) {names : List String}
    (named : PlainlyNamed (Path.resolve names)) :
    ¬Inside (Path.resolve names) (Path.resolve (names ++ refNames ref)) := by
  obtain ⟨name, isLast, plain⟩ := named
  rw [List.getLast?_eq_some_iff] at isLast
  obtain ⟨above, place⟩ := isLast
  have proper : name ≠ ".." := by
    rintro rfl
    exact plain (by decide)
  have up : Path.step (above ++ [name]) ".." = above := by
    simp [Path.step, proper]
  rw [resolve_append, refNames_of_climbs climbs, place, List.foldl_cons, up, List.foldl_cons,
    List.foldl_nil]
  rintro ⟨rest, same, -⟩
  rw [Path.step] at same
  split at same
  · -- the file would have to be called like the directory
    rw [List.append_assoc, List.append_cancel_left_eq, List.singleton_append,
      List.cons.injEq] at same
    rw [← same.1, String.toList_ofList] at plain
    exact plain climbs
  · have lengths := congrArg List.length same
    simp only [List.length_dropLast, List.length_append, List.length_singleton] at lengths
    omega

/-! ## Files -/

namespace Tree

/-- The content of the file at a place, if there is one. -/
def file? (tree : Tree) (place : Place) : Option Bytes :=
  match tree.node? place with
  | some (.file content) => some content
  | _ => none

theorem file?_put_of_ne (tree : Tree) {place other : Place} (node : Node) (differ : other ≠ place) :
    (tree.put place node).file? other = tree.file? other := by
  rw [file?, file?, node?_put_of_ne tree node differ]

/-- A directory that is made where nothing was is no file. -/
theorem file?_put_directory {tree : Tree} {place : Place} (free : tree.node? place = none)
    (other : Place) : (tree.put place .directory).file? other = tree.file? other := by
  by_cases same : other = place
  · subst same
    have below : IsBelow other := by
      rw [IsBelow, Bool.eq_false_iff]
      intro above
      rw [node?, if_pos above] at free
      cases free
    rw [file?, file?, node?_put_self tree _ below, free]
  · exact file?_put_of_ne tree _ same

theorem file?_makeFrom (tree : Tree) (place : Place) (names : List String) (other : Place) :
    (tree.makeFrom place names).1.file? other = tree.file? other := by
  induction names generalizing tree place with
  | nil =>
    rw [makeFrom]
    split
    · next free => exact file?_put_directory free other
    · rfl
    · rfl
  | cons name rest ih =>
    have made : (if (tree.node? place).isNone then tree.put place .directory
        else tree).file? other = tree.file? other := by
      split
      · next free => exact file?_put_directory (Option.isNone_iff_eq_none.mp free) other
      · rfl
    rw [makeFrom]
    split
    · exact made
    · rw [ih, made]

/-- Names that lead anywhere are not too long. -/
theorem size_le_of_foldlM {tree : Tree} {names : List String} {start place : Place}
    (leads : names.foldlM tree.follow start = .ok place) :
    ∀ name ∈ names, name.utf8ByteSize ≤ longestName := by
  induction names generalizing start with
  | nil => simp
  | cons name rest ih =>
    rw [List.foldlM_cons] at leads
    cases first : tree.follow start name with
    | error fault => rw [first] at leads; cases leads
    | ok next =>
      rw [first] at leads
      intro other inside
      rcases List.mem_cons.mp inside with rfl | later
      · rw [follow] at first
        split at first
        · cases first
        · cases first
        · split at first
          · cases first
          · omega
      · exact ih leads other later

theorem size_le_of_walk {tree : Tree} {names : List String} {place : Place}
    (leads : tree.walk names = .ok place) : ∀ name ∈ names, name.utf8ByteSize ≤ longestName := by
  rw [walk] at leads
  split at leads
  · cases leads
  · exact size_le_of_foldlM leads

theorem readFile_eq_some {tree : Tree} {names : List String} {content : Bytes}
    (read : tree.readFile names = .ok (some content)) :
    ∃ place, tree.walk names = .ok place ∧ tree.file? place = some content := by
  rw [readFile, find?] at read
  cases leads : tree.walk names with
  | error fault =>
    rw [leads] at read
    cases fault <;> cases read
  | ok place =>
    rw [leads] at read
    refine ⟨place, rfl, ?_⟩
    rw [file?]
    dsimp only at read
    split at read
    · next same =>
      cases read
      rw [Except.ok.inj same]
    · cases read
    · cases read

theorem file?_of_makeDirectories {tree after : Tree} {names : List String}
    {fault : Option FileFault} (made : tree.makeDirectories names = (after, fault))
    (other : Place) : after.file? other = tree.file? other := by
  rw [← file?_makeFrom tree [] names other]
  exact congrArg (fun result => result.1.file? other) made.symm

theorem file?_of_writeFile {tree after : Tree} {names : List String} {content : Bytes}
    {place other : Place} (written : tree.writeFile names content = .ok after)
    (lands : ∀ reached, tree.walk names = .ok reached →
      tree.node? reached ≠ some .directory → reached = place) (differ : other ≠ place) :
    after.file? other = tree.file? other := by
  rw [writeFile] at written
  split at written
  · cases written
  · next reached leads =>
    split at written
    · cases written
    · next noDirectory =>
      cases written
      rw [lands reached leads noDirectory, file?_put_of_ne _ _ differ]

/-- Writing for a reference changes no file but the one at which its names end. -/
theorem file?_writeBlob {tree : Tree} {ref : String} {place other : Place} (content : Bytes)
    (lands : ∀ tree : Tree, ∀ reached, tree.walk (blobNames ref) = .ok reached →
      tree.node? reached ≠ some .directory → reached = place) (differ : other ≠ place) :
    (tree.writeBlob ref content).1.file? other = tree.file? other := by
  generalize names : blobNames ref = path at lands
  rw [writeBlob, names]
  cases directories : tree.makeDirectories path.dropLast with
  | mk made fault =>
    have kept := file?_of_makeDirectories directories other
    cases fault with
    | some fault => exact kept
    | none =>
      dsimp only
      cases written : made.writeFile path content with
      | error fault => exact kept
      | ok after => exact (file?_of_writeFile written (lands made) differ).trans kept

end Tree

/-! ## References -/

/-- Where the blob files are meant to lie. -/
def blobsPlace : Place := ["data", "blobs"]

theorem blobNames_eq (ref : String) : blobNames ref = blobsPlace ++ refNames ref := by
  rw [blobNames, names_blobPath]
  rfl

theorem blobNames_of_climbs {ref : String} (climbs : Climbs ref) :
    blobNames ref = ["data", "blobs", "..", String.ofList (blobName ref)] := by
  rw [blobNames_eq, refNames_of_climbs climbs]
  rfl

/-- Whatever the tree, one place inside the directory of the blobs is all that is read or written
for a reference. -/
def KeepsToBlobs (ref : String) : Prop :=
  ∃ place, Inside blobsPlace place ∧ ∀ tree : Tree,
    (∀ content, tree.readBlob ref = .ok (some content) → tree.file? place = some content) ∧
    ∀ content other, other ≠ place →
      (tree.writeBlob ref content).1.file? other = tree.file? other

/-- The name for a reference starts with two dots, goes on behind them, and is short enough for a
file. -/
def Escapes (ref : String) : Prop :=
  Climbs ref ∧ blobName ref ≠ ['.', '.'] ∧
    (String.ofList (blobName ref)).utf8ByteSize ≤ longestName

/-- All that names lead to decides what is read and written for a reference. -/
theorem keepsToBlobs_of_lands {ref : String} {place : Place} (inside : Inside blobsPlace place)
    (lands : ∀ tree : Tree, ∀ reached, tree.walk (blobNames ref) = .ok reached →
      tree.node? reached ≠ some .directory → reached = place) : KeepsToBlobs ref := by
  refine ⟨place, inside, fun tree => ⟨fun content read => ?_, fun content other differ => ?_⟩⟩
  · obtain ⟨reached, leads, found⟩ := Tree.readFile_eq_some read
    rw [← lands tree reached leads, found]
    intro directory
    rw [Tree.file?, directory] at found
    cases found
  · exact Tree.file?_writeBlob content lands differ

theorem keepsToBlobs_of_not_escapes {ref : String} (stays : ¬Escapes ref) : KeepsToBlobs ref := by
  by_cases climbs : Climbs ref
  · -- the file is never reached, so any place will do
    refine keepsToBlobs_of_lands ⟨[], rfl, List.not_mem_nil⟩
      fun tree reached leads noDirectory => ?_
    have names := blobNames_of_climbs climbs
    by_cases up : blobName ref = ['.', '.']
    · rw [names, up] at leads
      have top : reached = [] := Tree.walk_eq_resolve tree leads
      rw [top] at noDirectory
      exact absurd rfl noDirectory
    · rw [names] at leads
      have short := Tree.size_le_of_walk leads (String.ofList (blobName ref)) (by simp)
      exact absurd ⟨climbs, up, short⟩ stays
  · have inside := inside_of_not_climbs climbs blobsPlace
    refine keepsToBlobs_of_lands inside fun tree reached leads _ => ?_
    rw [blobNames_eq] at leads
    exact Tree.walk_eq_resolve tree leads

/-- A tree with the directory of the blobs and nothing in it. -/
def freshTree : Tree :=
  ⟨[(["data"], .directory), (["data", "blobs"], .directory)]⟩

/-- A name behind double dots leads out of the directory of the blobs. -/
theorem walk_freshTree {name : String} (proper : name ≠ "..")
    (short : name.utf8ByteSize ≤ longestName) :
    freshTree.walk ["data", "blobs", "..", name] = .ok ["data", name] := by
  have text : "/".intercalate ["data", "blobs", "..", name] = "data/blobs/../" ++ name := by
    apply String.toList_injective
    simp
  have size : ("data/blobs/../" ++ name).utf8ByteSize ≤ longestPath := by
    rw [String.utf8ByteSize_append]
    exact Nat.add_le_add (by decide : _ ≤ longestPath - longestName) short
  have up : ["data", "blobs", ".."].foldlM freshTree.follow [] = .ok ["data"] := by decide +kernel
  have below : freshTree.follow ["data"] name = .ok ["data", name] := by
    have directory : freshTree.node? ["data"] = some .directory := by decide +kernel
    rw [Tree.follow, directory]
    dsimp only
    rw [if_neg (by omega), Path.step, if_pos (by simp [proper])]
    rfl
  rw [Tree.walk, text, if_neg (Nat.not_lt.mpr size),
    show ["data", "blobs", "..", name] = ["data", "blobs", ".."] ++ [name] from rfl,
    List.foldlM_append, up]
  simp only [bind, Except.bind, List.foldlM_cons, below, List.foldlM_nil, pure, Except.pure]

/-- What is written for a reference that escapes comes to lie above the directory of the blobs. -/
theorem writeBlob_of_escapes {ref : String} (escapes : Escapes ref) :
    (Tree.writeBlob {} ref []).1.file? ["data", String.ofList (blobName ref)] = some [] := by
  obtain ⟨climbs, further, short⟩ := escapes
  generalize fileName : String.ofList (blobName ref) = name at short ⊢
  have proper : name ≠ ".." := by
    rw [← fileName]
    exact mt ofList_eq_dots.mp further
  have other : name ≠ "blobs" := by
    rintro rfl
    rw [Climbs, String.ofList_injective fileName] at climbs
    revert climbs
    decide
  have names : blobNames ref = ["data", "blobs", "..", name] := by
    rw [blobNames_of_climbs climbs, fileName]
  have directories : Tree.makeDirectories {} ["data", "blobs", ".."] = (freshTree, none) := by
    decide +kernel
  have free : freshTree.node? ["data", name] = none := by
    simp [Tree.node?, freshTree, List.lookup_cons, beq_false_of_ne other]
  have below : Tree.IsBelow ["data", name] := rfl
  rw [Tree.writeBlob, names]
  dsimp only [List.dropLast]
  rw [directories]
  dsimp only
  rw [Tree.writeFile, walk_freshTree proper short]
  dsimp only
  rw [free]
  dsimp only
  rw [Tree.file?, Tree.node?_put_self _ _ below]

/-- A reference keeps to the directory of the blobs unless its name starts with two dots. -/
theorem blobs_contained_iff (ref : String) :
    (¬Climbs ref → ∀ directory : Path,
      Inside (Path.resolve directory.names) (Path.resolve (blobPath directory ref).names)) ∧
    (Climbs ref → ∀ directory : Path, PlainlyNamed (Path.resolve directory.names) →
      ¬Inside (Path.resolve directory.names) (Path.resolve (blobPath directory ref).names)) ∧
    (KeepsToBlobs ref ↔ ¬Escapes ref) := by
  refine ⟨fun stays directory => ?_, fun climbs directory named => ?_, ?_, ?_⟩
  · rw [names_blobPath]
    exact inside_of_not_climbs stays directory.names
  · rw [names_blobPath]
    exact not_inside_of_climbs climbs named
  · rintro ⟨place, ⟨rest, isInside, -⟩, keeps⟩ escapes
    have differ : ["data", String.ofList (blobName ref)] ≠ place := by
      rw [isInside]
      intro same
      have name : String.ofList (blobName ref) = "blobs" := by
        rw [blobsPlace] at same
        exact (List.cons.inj (List.cons.inj same).2).1
      have climbs := escapes.1
      rw [Climbs, String.ofList_injective name] at climbs
      revert climbs
      decide
    have unchanged := (keeps {}).2 [] _ differ
    rw [writeBlob_of_escapes escapes] at unchanged
    cases unchanged
  · exact keepsToBlobs_of_not_escapes

/-- The reference `..x` leads to a file beside the directory of the blobs. -/
theorem blobs_contained_iff_dots : Climbs "..x" ∧
    ¬Inside (Path.resolve blobDirectory.names)
      (Path.resolve (blobPath blobDirectory "..x").names) ∧
    ¬KeepsToBlobs "..x" := by
  have climbs : Climbs "..x" := by decide +kernel
  have named : PlainlyNamed (Path.resolve blobDirectory.names) := ⟨"blobs", by decide, by decide⟩
  have escapes : Escapes "..x" := ⟨climbs, by decide +kernel, by decide +kernel⟩
  obtain ⟨-, out, keeps⟩ := blobs_contained_iff "..x"
  exact ⟨climbs, out climbs blobDirectory named, fun stays => keeps.mp stays escapes⟩

end RegistryMend.Storage
