import RegistryMend.Package.Id
import RegistryMend.Proofs.Text.Wide

/-! # Reading and writing package ids

The text of an id that was read is what it was read from, without the blanks around it. So an id is
read back from its text, and two texts name the same package exactly if they are the same but for
the blanks around them. No id is read from a text that is unfit for a name, and none from one that
is cut into a scope and a name of which one is unfit.
-/

namespace RegistryMend.Package

open RegistryMend.Text (trimBy)

/-! ## Texts of ids -/

theorem id_of_make {scope : Option WideText} {name : WideText} {id : Id}
    (made : Id.make scope name = .ok id) : id.scope = scope ∧ id.name = name := by
  rw [Id.make] at made
  split at made
  · split at made
    · cases made
      exact ⟨rfl, rfl⟩
    · cases made
  · cases made

/-- The parts of a text stand in it as they are, and so they do in the text that is put together from
them. -/
theorem codes_scoped {scope name : List Code}
    (joined : Code.isJoined (.char '@' :: (scope ++ .char '/' :: name)) = true) :
    (WideText.ofCodes scope).codes = scope ∧ (WideText.ofCodes name).codes = name ∧
      ("@" ++ .ofCodes scope ++ "/" ++ .ofCodes name : WideText).codes =
        .char '@' :: (scope ++ .char '/' :: name) := by
  have part {part : List Code} (within : part <:+: .char '@' :: (scope ++ .char '/' :: name)) :
      Code.join part = part := Code.join_of_isJoined (Code.isJoined_of_isInfix within joined)
  have ofScope : Code.join scope = scope := part ⟨[.char '@'], .char '/' :: name, by simp⟩
  have ofName : Code.join name = name := part ⟨.char '@' :: (scope ++ [.char '/']), [], by simp⟩
  have marked : Code.join (.char '@' :: scope) = .char '@' :: scope :=
    part ⟨[], .char '/' :: name, by simp⟩
  have cut : Code.join (.char '@' :: (scope ++ [.char '/'])) = .char '@' :: (scope ++ [.char '/']) :=
    part ⟨[], name, by simp⟩
  refine ⟨ofScope, ofName, ?_⟩
  simp only [WideText.codes_append, WideText.codes_ofCodes, ofScope, ofName]
  change Code.join (Code.join (Code.join ([.char '@'] ++ scope) ++ [.char '/']) ++ name) = _
  rw [List.singleton_append, marked, List.cons_append, cut, List.cons_append, List.append_assoc,
    List.singleton_append, Code.join_of_isJoined joined]

/-- The text of an id that was read is what it was read from, without the blanks around it. -/
theorem text_of_parse {raw : WideText} {id : Id} (parsed : Id.parse raw = .ok id) :
    id.text = raw.trim := by
  rw [Id.parse] at parsed
  split at parsed
  · next marked trimmed =>
    split at parsed
    · next scope name found =>
      obtain ⟨ofScope, ofName⟩ := id_of_make parsed
      rw [(Text.splitFirst?_eq_some found).1] at trimmed
      rw [Id.text, ofScope, ofName]
      apply WideText.ext_codes
      rw [trimmed]
      exact (codes_scoped (trimmed ▸ raw.trim.joined)).2.2
    · obtain ⟨ofScope, ofName⟩ := id_of_make parsed
      rw [Id.text, ofScope, ofName]
  · obtain ⟨ofScope, ofName⟩ := id_of_make parsed
    rw [Id.text, ofScope, ofName]

/-- Reading an id looks at nothing but the text without the blanks around it. -/
theorem parse_congr {raw other : WideText} (same : raw.trim = other.trim) :
    Id.parse raw = Id.parse other := by
  rw [Id.parse, Id.parse, same]

/-- Ids that were read are the same if their texts are. -/
theorem id_eq_of_text {raw raw_ : WideText} {id id_ : Id} (parsed : Id.parse raw = .ok id)
    (parsed_ : Id.parse raw_ = .ok id_) (same : id.text = id_.text) : id = id_ := by
  rw [text_of_parse parsed, text_of_parse parsed_] at same
  rw [parse_congr same, parsed_] at parsed
  exact (Except.ok.inj parsed).symm

/-- An id that was read is read back from its text. -/
theorem parse_text {raw : WideText} {id : Id} (parsed : Id.parse raw = .ok id) :
    Id.parse id.text = .ok id := by
  have trimmed : id.text.trim = raw.trim := by
    rw [text_of_parse parsed]
    exact WideText.trim_trim raw
  rw [parse_congr trimmed, parsed]

/-! ## Texts that are no ids -/

/-- A text that can be neither a scope nor a name: it is empty, or a dot or an underscore comes
first. -/
def Unfit (codes : List Code) : Prop :=
  codes = [] ∨ codes.head? = some (.char '.') ∨ codes.head? = some (.char '_')

instance (codes : List Code) : Decidable (Unfit codes) :=
  inferInstanceAs (Decidable (_ ∨ _ ∨ _))

/-- A text that is cut at its first slash into a scope behind an `@` and a name, of which one is
unfit. -/
def MisScoped (codes : List Code) : Prop :=
  ∃ scope name, codes = .char '@' :: (scope ++ .char '/' :: name) ∧ .char '/' ∉ scope ∧
    (Unfit scope ∨ Unfit name)

theorem isPart_eq_false_iff {s : WideText} : isPart s = false ↔ Unfit s.codes := by
  rw [isPart, Unfit]
  cases s.codes with
  | nil => simp
  | cons c rest =>
    simp only [List.head?_cons, Option.some.injEq, reduceCtorEq, false_or, Bool.and_eq_false_iff,
      ne_eq, decide_eq_false_iff_not, not_not]

/-- No id is made of parts of which one is unfit, and one is made of all others. -/
theorem make_fails_iff {scope : Option WideText} {name : WideText} :
    (∃ problem, Id.make scope name = .error problem) ↔
      (∃ text ∈ scope, Unfit text.codes) ∨ Unfit name.codes := by
  rw [← isPart_eq_false_iff, Id.make]
  split
  · next fits =>
    have fit : ¬∃ text ∈ scope, Unfit text.codes := by
      rintro ⟨text, rfl, unfit⟩
      rw [← isPart_eq_false_iff] at unfit
      rw [Option.all_some, unfit] at fits
      cases fits
    split
    · next named =>
      simp only [fit, named, reduceCtorEq, exists_false, or_self]
    · next unnamed => simp [unnamed]
  · next misfit =>
    cases scope with
    | none => exact absurd rfl misfit
    | some text =>
      have unfit : Unfit text.codes := isPart_eq_false_iff.mp (by simpa using misfit)
      simp [unfit]

/-- No id is read from a text exactly if the text, without the blanks around it, is unfit for a name
or is cut into a scope and a name of which one is unfit. -/
theorem parse_fails_iff {raw : WideText} : (∃ problem, Id.parse raw = .error problem) ↔
    Unfit raw.trim.codes ∨ MisScoped raw.trim.codes := by
  rw [Id.parse]
  generalize raw.trim = text
  have alone (uncut : ¬MisScoped text.codes) :
      (∃ problem, Id.make none text = .error problem) ↔
        Unfit text.codes ∨ MisScoped text.codes := by
    rw [make_fails_iff]
    simp [uncut]
  split
  · next marked trimmed =>
    have marked_ : ¬Unfit (.char '@' :: marked) := by simp [Unfit]
    split
    · next scope name found =>
      obtain ⟨rfl, apart⟩ := Text.splitFirst?_eq_some found
      obtain ⟨ofScope, ofName, -⟩ := codes_scoped (trimmed ▸ text.joined)
      rw [make_fails_iff, trimmed, ofName]
      constructor
      · intro unfit
        refine .inr ⟨scope, name, rfl, apart, ?_⟩
        simpa only [Option.mem_some, exists_eq_left', ofScope] using unfit
      · rintro (unfit | ⟨scope_, name_, same, apart_, unfit⟩)
        · exact absurd unfit marked_
        · have cut := Text.splitFirst?_append apart_ name_
          rw [← (List.cons.inj same).2, found] at cut
          cases cut
          simpa only [Option.mem_some, exists_eq_left', ofScope] using unfit
    · next uncut =>
      refine alone ?_
      rintro ⟨scope, name, same, -, -⟩
      rw [trimmed] at same
      rw [Text.splitFirst?_eq_none_iff, (List.cons.inj same).2] at uncut
      simp at uncut
  · next unmarked =>
    refine alone ?_
    rintro ⟨scope, name, same, -, -⟩
    exact unmarked _ same

/-- Ids are read and written consistently: the text of an id that was read is what it was read from
without the blanks around it, the id is read back from that text, and it is read from the texts that
are the same but for such blanks and from no others. Reading fails exactly for texts that are unfit
for a name or are cut into a scope and a name of which one is unfit. -/
theorem parse_consistent (raw : WideText) :
    (∀ id, Id.parse raw = .ok id → id.text = raw.trim ∧ Id.parse id.text = .ok id ∧
      ∀ other, Id.parse other = .ok id ↔ other.trim = raw.trim) ∧
    ((∃ problem, Id.parse raw = .error problem) ↔
      Unfit raw.trim.codes ∨ MisScoped raw.trim.codes) := by
  refine ⟨fun id parsed => ?_, parse_fails_iff⟩
  refine ⟨text_of_parse parsed, parse_text parsed, fun other => ⟨fun read => ?_, fun same => ?_⟩⟩
  · exact (text_of_parse read).symm.trans (text_of_parse parsed)
  · rw [parse_congr same, parsed]

theorem parse_consistent_scoped :
    (∃ id, Id.parse "\t@ b/c/@d \n" = .ok id ∧ id.scope = some ↑" b" ∧ id.name = "c/@d" ∧
      Id.parse id.text = .ok id ∧ Id.parse "@ b/c/@d" = .ok id) ∧
    ∃ problem, Id.parse " @b/.c/d" = .error problem := by
  have made : ∃ id, Id.parse "\t@ b/c/@d \n" = .ok id ∧ id.scope = some ↑" b" ∧ id.name = "c/@d" := by
    refine ⟨⟨some ↑" b", "c/@d", by decide, by decide⟩, by decide +kernel, rfl, rfl⟩
  obtain ⟨id, read, within, named⟩ := made
  have consistent := (parse_consistent "\t@ b/c/@d \n").1 id read
  refine ⟨⟨id, read, within, named, consistent.2.1, ?_⟩, ?_⟩
  · exact (consistent.2.2 "@ b/c/@d").mpr (by decide +kernel)
  · rw [(parse_consistent " @b/.c/d").2]
    exact .inr ⟨[.char 'b'], [.char '.', .char 'c', .char '/', .char 'd'], by decide +kernel, by decide,
      by decide⟩

end RegistryMend.Package
