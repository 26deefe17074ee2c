import RegistryMend.Package.Manifest
import RegistryMend.Proofs.Archive.Packing
import RegistryMend.Proofs.Text.Utf8

/-! # Manifests in intact tarballs

In an intact tarball of files and directories the manifest is the first file with its name in a top
directory. Files with its name further down are passed, and what comes behind it is not looked at.
-/

namespace RegistryMend.Package

open RegistryMend.Archive
open RegistryMend.Json (Members Value)

/-! ## Names of manifests -/

/-- The path of a manifest in a top directory. -/
def manifestPath (top : List UInt8) : List UInt8 :=
  top ++ 47 :: manifestFile

theorem not_mem_manifestFile : 47 ∉ manifestFile := by
  decide

/-- The name of a manifest is its path in a top directory. A dot and a slash may come before it. -/
theorem isManifestName_iff {name : List UInt8} :
    isManifestName name = true ↔ ∃ top, 47 ∉ top ∧ withoutDotSlash name = manifestPath top := by
  rw [isManifestName]
  generalize withoutDotSlash name = path
  constructor
  · intro isName
    by_cases apart : 47 ∈ path
    · obtain ⟨top, rest, rfl, alone⟩ := List.eq_append_cons_of_mem apart
      rw [List.splitOn_append_cons_self, List.splitOn_eq_singleton alone] at isName
      by_cases apart_ : 47 ∈ rest
      · obtain ⟨second, third, rfl, alone_⟩ := List.eq_append_cons_of_mem apart_
        rw [List.splitOn_append_cons_self, List.splitOn_eq_singleton alone_] at isName
        cases pieces : third.splitOn 47 with
        | nil => exact absurd pieces (List.splitOn_ne_nil 47 third)
        | cons => rw [pieces] at isName; cases isName
      · rw [List.splitOn_eq_singleton apart_] at isName
        rw [beq_iff_eq.mp isName]
        exact ⟨top, alone, rfl⟩
    · rw [List.splitOn_eq_singleton apart] at isName
      cases isName
  · rintro ⟨top, alone, rfl⟩
    rw [manifestPath, List.splitOn_append_cons_self, List.splitOn_eq_singleton alone,
      List.splitOn_eq_singleton not_mem_manifestFile]
    exact beq_self_eq_true manifestFile

theorem withoutDotSlash_manifestPath {top : List UInt8} (alone : 47 ∉ top) (noDot : top ≠ [46]) :
    withoutDotSlash (manifestPath top) = manifestPath top := by
  rw [withoutDotSlash.eq_def]
  split
  · next rest starts =>
    rw [manifestPath] at starts
    match top with
    | [] => cases starts
    | [_] => cases starts; exact absurd rfl noDot
    | _ :: _ :: _ => cases starts; exact absurd (by simp) alone
  · rfl

/-- The manifest of a top directory is named by its path, or by that behind a dot and a slash. -/
theorem isManifestName_of_path {name top : List UInt8} (alone : 47 ∉ top) (noDot : top ≠ [46])
    (named : name = manifestPath top ∨ name = 46 :: 47 :: manifestPath top) :
    isManifestName name = true := by
  refine isManifestName_iff.mpr ⟨top, alone, ?_⟩
  rcases named with rfl | rfl
  · exact withoutDotSlash_manifestPath alone noDot
  · rfl

/-! ## Texts of manifests -/

/-- A text that is read as a document does not start with the mark of UTF-8. -/
theorem withoutMark_utf8Bytes {text : List Char} {value : Value}
    (read : Value.readBounded text = .ok value) :
    withoutMark (Text.utf8Bytes text) = Text.utf8Bytes text := by
  rw [withoutMark.eq_def]
  split
  · next rest starts =>
    obtain ⟨later, rfl⟩ := Text.eq_mark_cons starts
    cases read
  · rfl

theorem manifestDocument_of_text {content : List UInt8} {text : List Char} {manifest : Members}
    (isText : content = Text.utf8Bytes text ∨
      content = [0xef, 0xbb, 0xbf] ++ Text.utf8Bytes text)
    (read : Value.readBounded text = .ok (.obj manifest)) :
    manifestDocument content = .ok manifest := by
  have unmarked : withoutMark content = Text.utf8Bytes text := by
    rcases isText with rfl | rfl
    · exact withoutMark_utf8Bytes read
    · rfl
  rw [manifestDocument, unmarked, Text.utf8Chars?_utf8Bytes]
  dsimp only
  rw [read]

/-! ## Tarballs -/

theorem isManifest_entryAt {place size : Nat} {kind : Kind} {name : List UInt8} :
    isManifest (Tar.entryAt place kind name size) = (kind.isFile && isManifestName name) := by
  rw [isManifest, Tar.entryAt]
  dsimp only
  by_cases isDirectory : kind = .directory
  · rw [isDirectory]
    rfl
  · rw [knownName, if_neg isDirectory]

theorem length_le_memberBytes (members : List TarMember) :
    blockSize * members.length ≤ (memberBytes members).length := by
  induction members with
  | nil => exact Nat.zero_le _
  | cons member members ih =>
    have size := member.length_bytes
    have whole := inBlocks_nonneg member.content.length
    rw [memberBytes_cons, List.length_append, List.length_cons, Nat.mul_succ]
    omega

/-- A member is no manifest if it is a directory, or a file with another name. -/
theorem isManifest_member {member : TarMember}
    (other : member.kind = .regular → ∀ top, 47 ∉ top →
      withoutDotSlash member.name ≠ manifestPath top) (place : Nat) :
    isManifest (Tar.entryAt place member.kind member.name member.content.length) = false := by
  rw [isManifest_entryAt]
  obtain ⟨byte, -, marks⟩ := member.ustar.mark
  rcases marks.cases_kind with isFile | ⟨isDirectory, -⟩
  · rw [isFile]
    refine Bool.eq_false_iff.mpr fun isName => ?_
    obtain ⟨top, alone, path⟩ := isManifestName_iff.mp isName
    exact other isFile top alone path
  · rw [isDirectory]
    rfl

/-- The first file with the name of a manifest is taken whatever comes before and behind it. -/
theorem manifestBytes_of_gzipped {tarball header name content behind top : List UInt8}
    {members : List TarMember}
    (gzipped : Gzipped tarball (memberBytes members ++ (header ++ (content ++ behind))))
    (near : ((memberBytes members ++ header).length : Int) < Walk.placeBound)
    (others : ∀ member ∈ members, member.kind = .regular → ∀ top, 47 ∉ top →
      withoutDotSlash member.name ≠ manifestPath top)
    (ustar : Ustar header name content.length .regular) (alone : 47 ∉ top) (noDot : top ≠ [46])
    (named : name = manifestPath top ∨ name = 46 :: 47 :: manifestPath top)
    (small : (content.length : Int) ≤ largestManifest) :
    manifestBytes tarball = .ok content := by
  have start := Tar.at_ofBytes gzipped
  have reach := gzipped.length_le
  have blocks := length_le_memberBytes members
  have bound : (Tar.ofBytes tarball).headerBound = 3 * tarball.length + 2 := rfl
  simp only [List.length_append, ustar.length, blockSize] at reach near blocks
  have enough : members.length < (Tar.ofBytes tarball).headerBound := by
    omega
  have header_ : (header ++ (content ++ behind)).take blockSize = header :=
    List.take_left' ustar.length
  have isWanted (place : Nat) :
      isManifest (Tar.entryAt place .regular name content.length) = true := by
    rw [isManifest_entryAt, isManifestName_of_path alone noDot named]
    rfl
  obtain ⟨middle, later, found, stands⟩ := start.find (Tar.ofBytes tarball).headerBound rfl
    (fun member mem => isManifest_member (others member mem)) (header_.symm ▸ ustar) isWanted
    enough (.inl rfl) (by omega)
  have holds : (memberBytes members ++ (header ++ (content ++ behind))).drop
      (0 + (memberBytes members).length + blockSize) = content ++ behind := by
    rw [Nat.zero_add, ← List.drop_drop, List.drop_left, List.drop_left' ustar.length]
  obtain ⟨after, read⟩ := stands.readData .regular name holds (by simp only [blockSize]; omega)
    (Int.lt_of_le_of_lt small (by decide))
  have fits : ¬ largestManifest < (Tar.entryAt (0 + (memberBytes members).length + blockSize)
      .regular name content.length).size := Int.not_lt.mpr small
  unfold manifestBytes
  dsimp only
  rw [found]
  dsimp only
  rw [if_neg fits, read]

/-- An intact tarball of files and directories is read as what its manifest says: the first file
`package.json` in a top directory. Places in an archive are numbers of 64 bits, so the manifest
starts below their bound. -/
theorem readManifest_of_gzipped {tarball header name content behind top : List UInt8}
    {members : List TarMember} {text : List Char} {manifest : Members} {title version : WideText}
    (gzipped : Gzipped tarball (memberBytes members ++ (header ++ (content ++ behind))))
    (near : ((memberBytes members ++ header).length : Int) < Walk.placeBound)
    (others : ∀ member ∈ members, member.kind = .regular → ∀ top, 47 ∉ top →
      withoutDotSlash member.name ≠ manifestPath top)
    (ustar : Ustar header name content.length .regular) (alone : 47 ∉ top) (noDot : top ≠ [46])
    (named : name = manifestPath top ∨ name = 46 :: 47 :: manifestPath top)
    (small : (content.length : Int) ≤ largestManifest)
    (isText : content = Text.utf8Bytes text ∨
      content = [0xef, 0xbb, 0xbf] ++ Text.utf8Bytes text)
    (read : Value.readBounded text = .ok (.obj manifest))
    (hasName : manifest.find? "name" = some (.str title)) (notBlank : title.allBlank = false)
    (hasVersion : manifest.find? "version" = some (.str version))
    (notBlank_ : version.allBlank = false) :
    readManifest tarball = .ok (manifest, title, version) := by
  have document := manifestDocument_of_text isText read
  have title_ : requiredText Root.nameKey manifest = .ok title := by
    rw [requiredText, show manifest.find? Root.nameKey = some (.str title) from hasName]
    dsimp only
    rw [notBlank]
    rfl
  have version_ : requiredText Root.versionKey manifest = .ok version := by
    rw [requiredText, show manifest.find? Root.versionKey = some (.str version) from hasVersion]
    dsimp only
    rw [notBlank_]
    rfl
  rw [readManifest, manifestBytes_of_gzipped gzipped near others ustar alone noDot named small]
  dsimp only [bind, Except.bind]
  rw [manifestOfBytes, document]
  dsimp only [bind, Except.bind]
  rw [title_, version_]
  rfl

/-- A directory, and a manifest that stands too deep. -/
def nestedMembers : List TarMember := [
  .pack (asciiBytes "package/") 53 .directory [] (by decide) (by decide) (by decide +kernel)
    (by decide) .directory,
  .pack (asciiBytes "package/lib/package.json") 48 .regular (asciiBytes "[]") (by decide)
    (by decide) (by decide +kernel) (by decide) .file]

/-- The text of a manifest. -/
def manifestText : List Char :=
  "\x7b\"name\":\"a\",\"version\":\"1\"\x7d".toList

theorem readManifest_of_gzipped_nested :
    let name := asciiBytes "./package/package.json"
    let content := Text.utf8Bytes manifestText
    let header := ustarHeader name 48 content.length
    let data := memberBytes nestedMembers ++ (header ++ (content ++ [1, 2, 3]))
    readManifest (storedFile (data.map fun byte => [byte])) =
      .ok ([("name", .str "a"), ("version", .str "1")], "a", "1") := by
  have read : Value.readBounded manifestText =
      .ok (.obj [("name", .str "a"), ("version", .str "1")]) := by
    cbv
  refine readManifest_of_gzipped (gzipped_storedFile_bytes _) ?_ ?_
    (ustar_ustarHeader (by decide) (by decide) (by decide +kernel) (by decide) .file)
    (show 47 ∉ asciiBytes "package" by decide) (by decide) (.inr (by decide)) (by decide)
    (.inl rfl) read rfl (by decide) rfl (by decide)
  · decide +kernel
  · intro member mem isFile top alone path
    have isName := isManifestName_iff.mpr ⟨top, alone, path⟩
    simp only [nestedMembers, List.mem_cons, List.not_mem_nil, or_false] at mem
    rcases mem with rfl | rfl
    · cases isFile
    · exact absurd isName (by decide)

end RegistryMend.Package
