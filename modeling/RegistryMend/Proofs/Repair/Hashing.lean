import RegistryMend.Proofs.Digest.Streaming
import RegistryMend.Proofs.Repair.Runs
import RegistryMend.Proofs.Text.Wide

/-! # Hashing a blob anew

A blob is hashed piece by piece, in whatever pieces its reads deliver the content, and the result is
the digest of the whole content. The content ends at the first read that gives nothing. If the blob
cannot be opened, or a read fails before that end, the integrity is empty and this is reported once,
so that no digest of a part of the content is given.
-/

namespace RegistryMend.Storage

/-! ## Streams -/

namespace Stream

variable {stream rest : Stream} {pieces : List Bytes} {content : Bytes} {fault : FileFault}

/-- The reads of a stream give these pieces, none of them empty, and after them what is left. -/
def Starts (stream : Stream) (pieces : List Bytes) (rest : Stream) : Prop :=
  stream = pieces.map .ok ++ rest ∧ ∀ piece ∈ pieces, piece ≠ []

/-- The pieces before the first read that gives nothing, or before the end of the stream, are the
content. -/
def Gives (stream : Stream) (content : Bytes) : Prop :=
  ∃ pieces rest, stream.Starts pieces rest ∧ (rest = [] ∨ rest.head? = some (.ok [])) ∧
    pieces.flatten = content

/-- A read fails before the content ends. -/
def Breaks (stream : Stream) (fault : FileFault) : Prop :=
  ∃ pieces rest, stream.Starts pieces rest ∧ rest.head? = some (.error fault)

/-- Pieces that are not empty are read, and then what is left. -/
theorem pieces_of_starts (starts : stream.Starts pieces rest) :
    stream.pieces = rest.pieces.map (pieces ++ ·) := by
  obtain ⟨rfl, full⟩ := starts
  induction pieces with
  | nil => cases read : Stream.pieces rest <;> simp [read, Except.map]
  | cons piece others ih =>
    rw [List.forall_mem_cons] at full
    rw [List.map_cons, List.cons_append, Stream.pieces, ih full.2]
    · cases Stream.pieces rest <;> rfl
    · exact full.1

theorem content_of_gives (gives : stream.Gives content) : stream.content = .ok content := by
  obtain ⟨pieces, rest, starts, ended, rfl⟩ := gives
  have nothing : Stream.pieces rest = .ok [] := by
    cases rest with
    | nil => rfl
    | cons first more =>
      obtain rfl : first = .ok [] := by simpa using ended
      rfl
  rw [Stream.content, pieces_of_starts starts, nothing]
  simp [Except.map]

theorem content_of_breaks (breaks : stream.Breaks fault) : stream.content = .error fault := by
  obtain ⟨pieces, rest, starts, failed⟩ := breaks
  cases rest with
  | nil => cases failed
  | cons first more =>
    cases failed
    rw [Stream.content, pieces_of_starts starts]
    rfl

theorem Starts.cons {piece : Bytes} (full : piece ≠ []) (starts : stream.Starts pieces rest) :
    Starts (.ok piece :: stream) (piece :: pieces) rest := by
  obtain ⟨rfl, others⟩ := starts
  exact ⟨rfl, List.forall_mem_cons.mpr ⟨full, others⟩⟩

/-- The content ends, or a read fails before. -/
theorem gives_or_breaks (stream : Stream) :
    (∃ content, stream.Gives content) ∨ ∃ fault, stream.Breaks fault := by
  induction stream with
  | nil => exact .inl ⟨[], [], [], ⟨rfl, nofun⟩, .inl rfl, rfl⟩
  | cons first rest ih =>
    cases first with
    | error fault => exact .inr ⟨fault, [], _, ⟨rfl, nofun⟩, rfl⟩
    | ok piece =>
      by_cases nothing : piece = []
      · subst nothing
        exact .inl ⟨[], [], _, ⟨rfl, nofun⟩, .inr rfl, rfl⟩
      · rcases ih with ⟨content, pieces, left, starts, ended, -⟩ | ⟨fault, pieces, left, starts, failed⟩
        · exact .inl ⟨_, _, _, starts.cons nothing, ended, rfl⟩
        · exact .inr ⟨_, _, _, starts.cons nothing, failed⟩

theorem gives_iff : stream.Gives content ↔ stream.content = .ok content := by
  refine ⟨content_of_gives, fun read => ?_⟩
  rcases gives_or_breaks stream with ⟨given, gives⟩ | ⟨fault, breaks⟩
  · rw [content_of_gives gives] at read
    cases read
    exact gives
  · rw [content_of_breaks breaks] at read
    cases read

theorem breaks_iff : stream.Breaks fault ↔ stream.content = .error fault := by
  refine ⟨content_of_breaks, fun read => ?_⟩
  rcases gives_or_breaks stream with ⟨content, gives⟩ | ⟨met, breaks⟩
  · rw [content_of_gives gives] at read
    cases read
  · rw [content_of_breaks breaks] at read
    cases read
    exact breaks

end Stream

namespace Blob

/-- The content of a blob, as an opening of it gives it. -/
def contentAt (blob : Blob) (n : Nat) : Except FileFault Bytes :=
  (blob.opening n).bind Stream.content

/-- An opening of a blob gives this content. -/
def GivesAt (blob : Blob) (n : Nat) (content : Bytes) : Prop :=
  ∃ stream, blob.opening n = .ok stream ∧ Stream.Gives stream content

/-- An opening of a blob fails, or a read from it before the content ends. -/
def FailsAt (blob : Blob) (n : Nat) (fault : FileFault) : Prop :=
  blob.opening n = .error fault ∨ ∃ stream, blob.opening n = .ok stream ∧ Stream.Breaks stream fault

variable {blob : Blob} {n : Nat}

theorem givesAt_iff {content : Bytes} : blob.GivesAt n content ↔ blob.contentAt n = .ok content := by
  rw [GivesAt, contentAt]
  cases blob.opening n with
  | error fault => simp [Except.bind]
  | ok stream => simp [Except.bind, Stream.gives_iff]

theorem failsAt_iff {fault : FileFault} : blob.FailsAt n fault ↔ blob.contentAt n = .error fault := by
  rw [FailsAt, contentAt]
  cases blob.opening n with
  | error met => simp [Except.bind]
  | ok stream => simp [Except.bind, Stream.breaks_iff]

end Blob

end RegistryMend.Storage

namespace RegistryMend.Repair

open RegistryMend.Storage (Blob Bytes Opening Stream)

/-! ## Digests -/

/-- A digest that is taken piece by piece is that of the whole content. -/
theorem integrityOf_eq (tag : WideText) (opening : Opening) :
    integrityOf tag opening = (opening.bind Stream.content).map fun content =>
      Digest.integrityText tag ((Digest.Algorithm.ofTag tag).digest content) := by
  cases opening with
  | error fault => rfl
  | ok stream =>
    change (stream.pieces >>= fun pieces => _) = (stream.pieces.map List.flatten).map _
    cases stream.pieces with
    | error fault => rfl
    | ok pieces =>
      change Except.ok (Digest.integrityText tag _) = Except.ok _
      rw [Digest.Algorithm.digestPieces_eq]

/-- The integrity under a tag, given what reading the content gives. -/
def hashedIntegrity (tag : WideText) : Except FileFault Bytes → WideText
  | .error _ => ""
  | .ok content => Digest.integrityText tag ((Digest.Algorithm.ofTag tag).digest content)

/-- What is reported when content is hashed. -/
def hashReports (asset : String) : Except FileFault Bytes → Array Event
  | .ok _ => #[]
  | .error fault => #[.hashFailed asset (.file fault)]

/-- The session after a blob was hashed. -/
def rehashed {σ : Type} (asset : String) (blob : Blob) (session : Session σ) : Session σ :=
  { session with
    events := session.events ++ hashReports asset (blob.contentAt session.openings)
    openings := session.openings + 1 }

/-- A blob is hashed from its next opening. -/
theorem runIn_recalculate {σ : Type} (asset : String) (blob : Blob) (tag : WideText)
    (session : Session σ) : (recalculate asset blob tag).runIn session =
      (.ok (hashedIntegrity tag (blob.contentAt session.openings)),
        rehashed asset blob session) := by
  rw [recalculate, Work.runIn_bind, Work.runIn_openBlob]
  dsimp only
  rw [integrityOf_eq, rehashed, Blob.contentAt]
  cases (blob.opening session.openings).bind Stream.content with
  | error fault => rfl
  | ok content =>
    rw [hashReports, Array.append_empty]
    rfl

/-! ## Tags -/

/-- A tag without a hyphen is read back from its integrity text. -/
theorem integrityTag_integrityText {tag : WideText} (plain : .char '-' ∉ tag.codes)
    (digest : List UInt8) : Digest.integrityTag (Digest.integrityText tag digest) = tag := by
  have cut := Text.splitFirst?_append plain ((Text.base64 digest).toList.map .char)
  have text : (Digest.integrityText tag digest).codes =
      tag.codes ++ .char '-' :: (Text.base64 digest).toList.map .char := by
    rw [Digest.integrityText, WideText.codes_append_ofString, WideText.codes_append_ofString,
      List.append_assoc]
    rfl
  rw [Digest.integrityTag, text, Text.before_eq_of_splitFirst? cut, WideText.ofCodes_codes]

/-- Hashing under the tag of an integrity that was hashed gives the same again, from an opening that
gives the same content or fails as that one did. -/
theorem hashedIntegrity_again {tag : WideText} (plain : .char '-' ∉ tag.codes)
    {first again : Except FileFault Bytes}
    (same : ∀ content, first = .ok content ↔ again = .ok content) :
    hashedIntegrity (Digest.integrityTag (hashedIntegrity tag first)) again =
      hashedIntegrity tag first := by
  cases first with
  | ok content =>
    have read : Digest.integrityTag (hashedIntegrity tag (.ok content)) = tag :=
      integrityTag_integrityText plain _
    rw [(same content).mp rfl, read]
  | error fault =>
    cases again with
    | error other => rfl
    | ok content => cases (same content).mpr rfl

/-- A blob is hashed under a tag to the tag, a hyphen and the digest of its whole content, in whatever
pieces the content is read. If the blob cannot be opened or read to the end of the content, the
integrity is empty and one error names the asset. Nothing else happens. Hashing again under the tag of
what came out gives the same, for a tag without a hyphen. -/
theorem recalculate_streamed {σ : Type} (asset : String) (tag : WideText) (blob : Blob)
    (session : Session σ) :
    (∀ content, blob.GivesAt session.openings content →
      (recalculate asset blob tag).runIn session =
        (.ok (tag ++ "-" ++ Text.base64 (if tag.trim.plain?.map Text.lowerCase = some "sha1" then
            Digest.sha1.digest content else Digest.sha512.digest content)),
          { session with openings := session.openings + 1 })) ∧
    (∀ fault, blob.FailsAt session.openings fault →
      ∃ told : Event, (recalculate asset blob tag).runIn session =
        (.ok "", { session with
          events := session.events.push told, openings := session.openings + 1 }) ∧
        told.level = .error ∧ ∀ describe, told.text describe =
          "Failed to calculate hash for asset " ++ asset ++ ": " ++
            (Failure.file fault).message describe) ∧
    ((∃ content, blob.GivesAt session.openings content) ∨
      ∃ fault, blob.FailsAt session.openings fault) ∧
    (.char '-' ∉ tag.codes → ∀ text, ((recalculate asset blob tag).runIn session).1 = .ok text →
      ∀ again : Session σ, (∀ content, blob.GivesAt session.openings content ↔
          blob.GivesAt again.openings content) →
        ((recalculate asset blob (Digest.integrityTag text)).runIn again).1 = .ok text) := by
  simp only [Storage.Blob.givesAt_iff, Storage.Blob.failsAt_iff, runIn_recalculate, rehashed]
  refine ⟨fun content read => ?_, fun fault failed => ?_, ?_, fun plain text hashed again same => ?_⟩
  · rw [read, hashedIntegrity, Digest.Algorithm.ofTag,
      apply_ite (Digest.Algorithm.digest · content), hashReports, Array.append_empty]
    rfl
  · rw [failed]
    exact ⟨.hashFailed asset (.file fault), rfl, rfl, fun _ => rfl⟩
  · cases blob.contentAt session.openings with
    | ok content => exact .inl ⟨content, rfl⟩
    | error fault => exact .inr ⟨fault, rfl⟩
  · cases hashed
    rw [hashedIntegrity_again plain same]

/-- A blob that is read in pieces of two sizes, that cannot be read to its end when it is opened a
second time, and that cannot be opened after that. -/
def failingBlob : Blob :=
  { ref := "b", sha1 := "", size := 3
    opening := fun n =>
      match n with
      | 0 => .ok [.ok [97], .ok [98, 99], .ok [], .error .missing]
      | 1 => .ok [.ok [97], .error (.device "read failed"), .ok [98, 99]]
      | _ => .error .missing }

theorem recalculate_streamed_abc :
    failingBlob.GivesAt 0 [97, 98, 99] ∧ failingBlob.FailsAt 1 (.device "read failed") ∧
    ((recalculate "a" failingBlob " SHA1").runIn ⟨(), #[], 0⟩).1 =
      .ok " SHA1-qZk+NkcGgWq6PiVxeFDCbJzQ2J0=" ∧
    ((recalculate "a" failingBlob " SHA1").runIn ⟨(), #[], 1⟩).1 = .ok "" ∧
    ((recalculate "a" failingBlob (Digest.integrityTag "")).runIn ⟨(), #[], 2⟩).1 = .ok "" := by
  have given : failingBlob.GivesAt 0 [97, 98, 99] :=
    ⟨_, rfl, [[97], [98, 99]], [.ok [], .error .missing], ⟨rfl, by decide⟩, .inr rfl, rfl⟩
  have broken : failingBlob.FailsAt 1 (.device "read failed") :=
    .inr ⟨_, rfl, [[97]], [.error (.device "read failed"), .ok [98, 99]], ⟨rfl, by decide⟩, rfl⟩
  have closed : failingBlob.FailsAt 2 .missing := .inl rfl
  have whole := (recalculate_streamed "a" " SHA1" failingBlob ⟨(), #[], 0⟩).1 _ given
  have cut := recalculate_streamed "a" " SHA1" failingBlob ⟨(), #[], 1⟩
  obtain ⟨told, empty, -⟩ := cut.2.1 _ broken
  have none_ : ((recalculate "a" failingBlob " SHA1").runIn ⟨(), #[], 1⟩).1 = .ok "" := by
    rw [empty]
  have alike : ∀ content, failingBlob.GivesAt 1 content ↔ failingBlob.GivesAt 2 content := by
    intro content
    rw [Storage.Blob.givesAt_iff, Storage.Blob.givesAt_iff, Storage.Blob.failsAt_iff.mp broken,
      Storage.Blob.failsAt_iff.mp closed]
    simp only [reduceCtorEq]
  refine ⟨given, broken, ?_, none_, cut.2.2.2 (by decide) "" none_ ⟨(), #[], 2⟩ alike⟩
  rw [whole]
  exact congrArg Except.ok (by decide +kernel)

end RegistryMend.Repair
