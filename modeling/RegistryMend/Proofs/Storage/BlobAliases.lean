import Mathlib.Data.List.DropRight
import RegistryMend.Proofs.Storage.GroundedTrees

/-! # Blobs that share a file

The file for a reference is told by its name alone, and names that differ lead to different places.
Whatever else is written, a place that is found stays within reach, so a reference finds what it
found before unless the writing was for its own name.
-/

namespace RegistryMend.Storage

/-! ## References -/

/-- The place to which the names of a reference lead. -/
def blobPlace (ref : String) : Place :=
  Path.resolve (blobNames ref)

theorem blobPlace_of_not_climbs {ref : String} (stays : ¬Climbs ref) :
    blobPlace ref = blobsPlace ++ refNames ref := by
  rw [blobPlace, blobNames_eq, resolve_append,
    foldl_step_of_no_dots (mt (dots_mem_refNames ref).mp stays)]
  rfl

theorem blobPlace_of_climbs {ref : String} (climbs : Climbs ref) :
    blobPlace ref =
      if blobName ref = ['.', '.'] then [] else ["data", String.ofList (blobName ref)] := by
  rw [blobPlace, blobNames_of_climbs climbs]
  split
  · next dots =>
    rw [dots]
    rfl
  · next further =>
    have proper : String.ofList (blobName ref) ≠ ".." := mt ofList_eq_dots.mp further
    have up : Path.resolve ["data", "blobs", ".."] = ["data"] := by decide
    rw [show ["data", "blobs", "..", String.ofList (blobName ref)] =
      ["data", "blobs", ".."] ++ [String.ofList (blobName ref)] from rfl, resolve_append, up,
      List.foldl_cons, List.foldl_nil, Path.step, if_pos (by simp [proper])]
    rfl

theorem blobName_ne_nil {ref : String} (text : Text.allBlank ref = false) :
    blobName ref ≠ [] := by
  intro empty
  rw [blobName, List.map_eq_nil_iff, Text.trimBlanks, Text.trimBy, List.reverse_eq_nil_iff,
    List.dropWhile_eq_nil_iff] at empty
  have blank : ∀ c ∈ ref.toList.dropWhile Text.isBlank, Text.isBlank c :=
    fun c inside => empty c (List.mem_reverse.mpr inside)
  rw [← List.dropWhile_eq_nil_iff, List.dropWhile_idempotent, List.dropWhile_eq_nil_iff] at blank
  rw [Text.allBlank, List.all_eq_true.mpr blank] at text
  cases text

/-- The name of the reference that leads to a place. -/
def nameAt : Place → List Char
  | [] => ['.', '.']
  | [_, name] => if name = "blobs" then ['.'] else name.toList
  | place => (place.getLastD "").toList

/-- The place tells the name. -/
theorem nameAt_blobPlace {ref : String} (text : Text.allBlank ref = false) :
    nameAt (blobPlace ref) = blobName ref := by
  by_cases climbs : Climbs ref
  · rw [blobPlace_of_climbs climbs]
    split
    · next dots => exact dots.symm
    · have other : String.ofList (blobName ref) ≠ "blobs" := by
        intro same
        rw [Climbs, String.ofList_injective same] at climbs
        revert climbs
        decide
      rw [nameAt, if_neg other, String.toList_ofList]
  · rw [blobPlace_of_not_climbs climbs, refNames]
    split
    · next short =>
      rw [short.resolve_left (blobName_ne_nil text)]
      decide
    · rw [blobsPlace, nameAt]
      · simp
      · simp
      · simp

namespace Tree

/-- Writing for a reference stops when its directory is made, or writes its file there. -/
theorem writeBlob_cases (tree : Tree) (ref : String) (content : Bytes) :
    (∃ fault, tree.writeBlob ref content =
      ((tree.makeDirectories (blobNames ref).dropLast).1, some fault)) ∨
    ∃ after, (tree.makeDirectories (blobNames ref).dropLast).1.writeFile (blobNames ref) content =
      .ok after ∧ tree.writeBlob ref content = (after, none) := by
  rw [writeBlob]
  generalize tree.makeDirectories (blobNames ref).dropLast = directories
  obtain ⟨made, fault⟩ := directories
  cases fault with
  | some fault => exact .inl ⟨fault, rfl⟩
  | none =>
    dsimp only
    cases made.writeFile (blobNames ref) content with
    | error fault => exact .inl ⟨fault, rfl⟩
    | ok after => exact .inr ⟨after, rfl, rfl⟩

theorem Grown.writeBlob {tree : Tree} (grounded : tree.Grounded) (ref : String)
    (content : Bytes) : Grown tree (tree.writeBlob ref content).1 := by
  have made : Grown tree (tree.makeDirectories (blobNames ref).dropLast).1 :=
    Grown.makeFrom grounded rfl _
  rcases writeBlob_cases tree ref content with ⟨fault, stopped⟩ | ⟨after, written, done⟩
  · simpa only [stopped] using made
  · rw [done]
    exact made.trans (Grown.writeFile made.grounded written)

/-- A tree that has come about from the empty one: directories were made, and blobs were written
and removed. -/
inductive Stocked : Tree → Prop
  | empty : Stocked {}
  | layout {tree : Tree} (names : List String) (before : Stocked tree) :
      Stocked (tree.makeDirectories names).1
  | write {tree : Tree} (ref : String) (content : Bytes) (before : Stocked tree) :
      Stocked (tree.writeBlob ref content).1
  | remove {tree after : Tree} {ref : String} (removed : tree.removeBlob ref = .ok after)
      (before : Stocked tree) : Stocked after

/-- Whatever was made, written and removed, everything lies in a directory. -/
theorem Stocked.grounded {tree : Tree} (stocked : Stocked tree) : tree.Grounded := by
  induction stocked with
  | empty => exact grounded_empty
  | layout names before ih => exact (Grown.makeFrom ih rfl names).grounded
  | write ref content before ih => exact (Grown.writeBlob ih ref content).grounded
  | remove removed before ih => exact ih.removeFile removed

theorem readBlob_eq_ok_some {tree : Tree} {ref : String} {content : Bytes} :
    tree.readBlob ref = .ok (some content) ↔
      tree.walk (blobNames ref) = .ok (blobPlace ref) ∧
        tree.file? (blobPlace ref) = some content :=
  readFile_eq_ok_some

theorem readBlob_of_writeBlob {tree : Tree} (grounded : tree.Grounded) {ref : String}
    {content : Bytes} (succeeds : (tree.writeBlob ref content).2 = none) :
    (tree.writeBlob ref content).1.readBlob ref = .ok (some content) := by
  have made : Grown tree (tree.makeDirectories (blobNames ref).dropLast).1 :=
    Grown.makeFrom grounded rfl _
  rcases writeBlob_cases tree ref content with ⟨fault, stopped⟩ | ⟨after, written, done⟩
  · rw [stopped] at succeeds
    cases succeeds
  · rw [done]
    exact readFile_of_writeFile made.grounded written

/-- Writing for one name leaves the file for another one as it is. -/
theorem file?_writeBlob_of_ne (tree : Tree) {ref other : String}
    (text : Text.allBlank ref = false) (text_ : Text.allBlank other = false)
    (differ : blobName ref ≠ blobName other) (content : Bytes) :
    (tree.writeBlob ref content).1.file? (blobPlace other) = tree.file? (blobPlace other) := by
  refine file?_writeBlob content (fun tree reached leads _ => walk_eq_resolve tree leads) ?_
  intro same
  have names := congrArg nameAt same
  rw [nameAt_blobPlace text_] at names
  exact differ ((nameAt_blobPlace text).symm.trans names.symm)

/-- The directories on the way to a file that is found are there, unless the way leads through the
directory of the blobs and out again. -/
theorem passes_of_file? {tree after : Tree} (grounded : tree.Grounded) {ref : String}
    (way : Climbs ref → tree.node? blobsPlace = some .directory)
    (leads : after.Passes [] (blobNames ref)) {content : Bytes}
    (found : tree.file? (blobPlace ref) = some content) : tree.Passes [] (blobNames ref) := by
  intro front name rest split
  refine ⟨?_, (leads front name rest split).2⟩
  obtain ⟨node, present⟩ : ∃ node, tree.node? (blobPlace ref) = some node := by
    rw [file?] at found
    split at found
    · next node => exact ⟨_, node⟩
    · cases found
  by_cases climbs : Climbs ref
  · have directory := way climbs
    have above := grounded.above directory
    rw [blobNames_of_climbs climbs] at split
    rcases front with _ | ⟨_, _ | ⟨_, _ | ⟨_, _ | ⟨_, front⟩⟩⟩⟩
    all_goals simp only [List.nil_append, List.cons_append, List.cons.injEq] at split
    · rfl
    · rw [← split.1]
      exact above
    · rw [← split.1, ← split.2.1]
      exact directory
    · rw [← split.1, ← split.2.1, ← split.2.2.1]
      exact above
    · simp at split
  · have plain : ".." ∉ blobNames ref := by
      rw [blobNames_eq, List.mem_append, not_or]
      exact ⟨by decide, mt (dots_mem_refNames ref).mp climbs⟩
    have place : blobPlace ref = front ++ name :: rest := by
      rw [← split, blobPlace, Path.resolve, foldl_step_of_no_dots plain, List.nil_append]
    have plain_ : ".." ∉ front := fun inside => plain (split ▸ List.mem_append_left _ inside)
    rw [foldl_step_of_no_dots plain_, List.nil_append]
    rw [place] at present
    exact grounded.over present (by simp)

theorem readBlob_writeBlob_iff {tree : Tree} (grounded : tree.Grounded) {ref other : String}
    (text : Text.allBlank ref = false) (text_ : Text.allBlank other = false)
    (differ : blobName ref ≠ blobName other)
    (way : Climbs other → tree.node? blobsPlace = some .directory) (content found : Bytes) :
    (tree.writeBlob ref content).1.readBlob other = .ok (some found) ↔
      tree.readBlob other = .ok (some found) := by
  have grown := Grown.writeBlob grounded ref content
  rw [readBlob_eq_ok_some, readBlob_eq_ok_some, file?_writeBlob_of_ne tree text text_ differ,
    walk_eq_ok, walk_eq_ok]
  constructor
  · rintro ⟨⟨fits, passes, place⟩, file⟩
    exact ⟨⟨fits, passes_of_file? grounded way passes file, place⟩, file⟩
  · rintro ⟨⟨fits, passes, place⟩, file⟩
    exact ⟨⟨fits, fun front name rest split => (passes front name rest split).imp_left
      (grown.stays _), place⟩, file⟩

/-- A reference with a short name can be read in every tree. -/
theorem exists_readBlob {ref : String}
    (short : (String.ofList (blobName ref)).utf8ByteSize ≤ longestName) (tree : Tree) :
    ∃ found, tree.readBlob ref = .ok found := by
  have part : (String.ofList ((blobName ref).take 2)).utf8ByteSize ≤ longestName := by
    have whole := congrArg String.ofList (List.take_append_drop 2 (blobName ref))
    rw [String.ofList_append] at whole
    have sizes := congrArg String.utf8ByteSize whole
    rw [String.utf8ByteSize_append] at sizes
    omega
  rw [readBlob, blobNames_eq, refNames]
  split
  · exact exists_readFile (by decide) (by decide) tree
  · refine exists_readFile ?_ ?_ tree
    · generalize String.ofList ((blobName ref).take 2) = directory at part
      generalize String.ofList (blobName ref) = name at short
      have text : "/".intercalate (blobsPlace ++ [directory, name]) =
          "data/blobs/" ++ directory ++ "/" ++ name := by
        apply String.toList_injective
        simp [blobsPlace]
      rw [text, String.utf8ByteSize_append, String.utf8ByteSize_append,
        String.utf8ByteSize_append]
      have ends : "data/blobs/".utf8ByteSize + "/".utf8ByteSize + 2 * longestName ≤
          longestPath := by decide
      omega
    · simp only [blobsPlace, List.cons_append, List.nil_append, List.mem_cons,
        List.not_mem_nil, or_false, forall_eq_or_imp, forall_eq]
      exact ⟨by decide, by decide, part, short⟩

/-- A written blob is read under every reference of its name. Under another name the bytes that were
found before are found, and where there were none there are none. -/
theorem readBlob_writeBlob {tree : Tree} (grounded : tree.Grounded) (ref other : String)
    (content : Bytes) :
    (tree.writeBlob ref content).1.Grounded ∧
    (blobName ref = blobName other → (tree.writeBlob ref content).2 = none →
      (tree.writeBlob ref content).1.readBlob other = .ok (some content)) ∧
    (Text.allBlank ref = false → Text.allBlank other = false → blobName ref ≠ blobName other →
      (Climbs other → tree.node? blobsPlace = some .directory) →
      (∀ found, (tree.writeBlob ref content).1.readBlob other = .ok (some found) ↔
        tree.readBlob other = .ok (some found)) ∧
      ((String.ofList (blobName other)).utf8ByteSize ≤ longestName →
        (tree.writeBlob ref content).1.readBlob other = tree.readBlob other)) := by
  refine ⟨(Grown.writeBlob grounded ref content).grounded, fun same written => ?_,
    fun text text_ differ way => ?_⟩
  · rw [← readBlob_congr _ same]
    exact readBlob_of_writeBlob grounded written
  · have finds := readBlob_writeBlob_iff grounded text text_ differ way content
    refine ⟨finds, fun short => ?_⟩
    obtain ⟨before, read⟩ := exists_readBlob short tree
    obtain ⟨after, read_⟩ := exists_readBlob short (tree.writeBlob ref content).1
    rw [read, read_]
    refine congrArg Except.ok (Option.ext fun found => ?_)
    have same := finds found
    rw [read, read_, Except.ok.injEq, Except.ok.injEq] at same
    exact same

/-- The blobs `ab` and `abc` lie in one directory and do not meet, nor does a reference that leads
out of it. -/
theorem readBlob_writeBlob_siblings : freshTree.Grounded ∧
    (freshTree.writeBlob "ab" [1]).1.readBlob "abc" = freshTree.readBlob "abc" ∧
    (freshTree.writeBlob "ab" [1]).1.readBlob "..x" = freshTree.readBlob "..x" := by
  have grounded : freshTree.Grounded := by decide +kernel
  obtain ⟨-, -, sibling⟩ := readBlob_writeBlob grounded "ab" "abc" [1]
  obtain ⟨-, -, outside⟩ := readBlob_writeBlob grounded "ab" "..x" [1]
  exact ⟨grounded,
    (sibling (by decide) (by decide) (by decide +kernel) fun _ => by decide +kernel).2
      (by decide +kernel),
    (outside (by decide) (by decide) (by decide +kernel) fun _ => by decide +kernel).2
      (by decide +kernel)⟩

/-- What is written for one reference is found under another one, for which nothing was there. -/
theorem readBlob_writeBlob_alias : freshTree.Grounded ∧ "a:b" ≠ "a/b" ∧
    Text.allBlank "a:b" = false ∧ Text.allBlank "a/b" = false ∧
    freshTree.readBlob "a/b" = .ok none ∧
    (freshTree.writeBlob "a:b" [1]).1.readBlob "a/b" = .ok (some [1]) := by
  decide +kernel

end Tree

end RegistryMend.Storage
