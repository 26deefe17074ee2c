import RegistryMend.Proofs.Json.Storable
import RegistryMend.Proofs.Json.Strings

/-! # Canonical text read back

The canonical text of a value that can be stored is read as the value with the keys of all objects
sorted. Sorting changes no member, so whatever is looked up is the same as before.
-/

namespace RegistryMend.Json

/-! ## Sorted values -/

mutual

/-- The value with the keys of all its objects sorted. -/
def Value.sorted : Value → Value
  | .arr items => .arr (sortedItems items)
  | .obj members => .obj (sortByKey (sortedMembers members))
  | value => value

/-- The items of an array, each of them sorted. -/
def sortedItems : List Value → List Value
  | [] => []
  | item :: rest => item.sorted :: sortedItems rest

/-- The members of an object in their order, the value of each sorted. -/
def sortedMembers : List (WideText × Value) → List (WideText × Value)
  | [] => []
  | (key, value) :: rest => (key, value.sorted) :: sortedMembers rest

end

theorem sortedItems_eq_map (items : List Value) : sortedItems items = items.map Value.sorted := by
  induction items with
  | nil => rfl
  | cons item rest ih => rw [sortedItems, ih, List.map_cons]

theorem sortedMembers_eq_map (members : List (WideText × Value)) :
    sortedMembers members = members.map fun member => (member.1, member.2.sorted) := by
  induction members with
  | nil => rfl
  | cons member rest ih => rw [sortedMembers, ih, List.map_cons]

theorem canonicalItems_eq_map (items : List Value) :
    canonicalItems items = items.map Value.canonicalChars := by
  induction items with
  | nil => rfl
  | cons item rest ih => rw [canonicalItems, ih, List.map_cons]

theorem canonicalMembers_eq_map (members : List (WideText × Value)) :
    canonicalMembers members = members.map fun member => (member.1, member.2.canonicalChars) := by
  induction members with
  | nil => rfl
  | cons member rest ih => rw [canonicalMembers, ih, List.map_cons]

theorem sortByKey_perm {α : Type} (members : List (WideText × α)) :
    (sortByKey members).Perm members :=
  List.mergeSort_perm ..

/-- Values are changed before or after sorting by key alike. -/
theorem sortByKey_map {α β : Type} (change : α → β) (members : List (WideText × α)) :
    sortByKey (members.map fun member => (member.1, change member.2)) =
      (sortByKey members).map fun member => (member.1, change member.2) := by
  rw [sortByKey, sortByKey, List.map_mergeSort]
  exact fun _ _ _ _ => rfl

/-- The members of an object with all keys below sorted. -/
def Members.sorted (members : Members) : Members :=
  sortByKey (sortedMembers members)

/-! ## Texts of values -/

/-- How the text of a value begins: with a character that is no blank and does not end an array. -/
def Starts (cs : List Char) : Prop :=
  ∃ c rest, cs = c :: rest ∧ isSpace c = false ∧ c ≠ ']'

theorem joinItems_singleton (text : List Char) : joinItems [text] = text :=
  List.intercalate_singleton

theorem joinItems_cons (text : List Char) {others : List (List Char)} (some_ : others ≠ []) :
    joinItems (text :: others) = text ++ ',' :: ' ' :: joinItems others := by
  rw [joinItems, List.intercalate_cons_of_ne_nil some_, List.append_assoc]
  rfl

/-- The text of a member of an object. -/
def memberChars (member : WideText × Value) : List Char :=
  stringChars member.1 ++ [':', ' '] ++ member.2.canonicalChars

theorem canonicalChars_obj (members : List (WideText × Value)) :
    (Value.obj members).canonicalChars =
      '\x7b' :: joinItems ((sortByKey members).map memberChars) ++ ['\x7d'] := by
  rw [Value.canonicalChars, joinMembers, canonicalMembers_eq_map,
    sortByKey_map Value.canonicalChars, List.map_map]
  rfl

theorem Starts.skipSpaces {cs : List Char} (starts : Starts cs) : skipSpaces cs = cs := by
  obtain ⟨c, rest, rfl, noSpace, -⟩ := starts
  rw [Json.skipSpaces, List.dropWhile_cons, noSpace, if_neg (by decide)]

/-- A blank before a text is skipped. -/
theorem Starts.skipSpaces_space {cs : List Char} (starts : Starts cs) :
    Json.skipSpaces (' ' :: cs) = cs := by
  rw [Json.skipSpaces, List.dropWhile_cons, if_pos (by decide)]
  exact starts.skipSpaces

theorem skipSpaces_comma (cs : List Char) : skipSpaces (',' :: cs) = ',' :: cs := rfl

theorem skipColon_start {cs : List Char} (starts : Starts cs) :
    skipColon (':' :: ' ' :: cs) = .ok cs := by
  have colon : skipSpaces (':' :: ' ' :: cs) = ':' :: ' ' :: cs := rfl
  rw [skipColon, colon]
  exact congrArg Except.ok starts.skipSpaces_space

theorem Starts.append {cs : List Char} (starts : Starts cs) (rest : List Char) :
    Starts (cs ++ rest) := by
  obtain ⟨c, later, rfl, first⟩ := starts
  exact ⟨c, later ++ rest, rfl, first⟩

/-- Joined texts begin with the first of them. -/
theorem joinItems_begins (text : List Char) (others : List (List Char)) :
    ∃ behind, joinItems (text :: others) = text ++ behind := by
  cases others with
  | nil => exact ⟨[], by rw [joinItems_singleton, List.append_nil]⟩
  | cons next later => exact ⟨_, joinItems_cons text (List.cons_ne_nil next later)⟩

theorem Starts.joinItems {text : List Char} (starts : Starts text) (others : List (List Char)) :
    Starts (joinItems (text :: others)) := by
  obtain ⟨behind, begins⟩ := joinItems_begins text others
  rw [begins]
  exact starts.append behind

/-- A word or a number starts with none of the characters that begin or end other values. -/
theorem readAtom_start {cs : List Char} {found : Value × List Char} (read : readAtom cs = .ok found) :
    Starts cs ∧ ∀ c ∈ cs.head?, c ≠ '"' ∧ c ≠ '[' ∧ c ≠ '\x7b' := by
  cases cs with
  | nil => cases read
  | cons c rest =>
    have differ : c ∉ [' ', '\t', '\n', '\r', ']', '"', '[', '\x7b'] := by
      intro member
      simp only [List.mem_cons, List.not_mem_nil, or_false] at member
      rcases member with rfl | rfl | rfl | rfl | rfl | rfl | rfl | rfl <;> cases read
    simp only [List.mem_cons, List.not_mem_nil, or_false, not_or] at differ
    refine ⟨⟨c, rest, rfl, ?_, differ.2.2.2.2.1⟩, ?_⟩
    · simp [isSpace, differ]
    · rintro d first
      rw [List.head?_cons, Option.mem_some_iff] at first
      subst first
      exact ⟨differ.2.2.2.2.2.1, differ.2.2.2.2.2.2.1, differ.2.2.2.2.2.2.2⟩

/-- What is read as a word or a number is read as a value. -/
theorem readValue_of_readAtom {cs : List Char} {found : Value × List Char}
    (read : readAtom cs = .ok found) (fuel : Nat) : readValue (fuel + 1) none cs = .ok found := by
  obtain ⟨⟨c, rest, rfl, -⟩, others⟩ := readAtom_start read
  obtain ⟨quote, bracket, brace⟩ := others c rfl
  rw [readValue, read]
  · exact fun _ same => quote (List.cons.inj same).1
  · exact fun _ same => bracket (List.cons.inj same).1
  · exact fun _ same => brace (List.cons.inj same).1

/-! ## Reading back -/

/-- A value is read back from its canonical text, whatever ends it. -/
def Reads (value : Value) : Prop :=
  Starts value.canonicalChars ∧ ∀ fuel rest, Ends rest → 2 * value.canonicalChars.length ≤ fuel →
    readValue fuel none (value.canonicalChars ++ rest) = .ok (value.sorted, rest)

theorem ends_comma (rest : List Char) : Ends (',' :: rest) :=
  fun _ first => .inl (Option.some.inj first).symm

theorem ends_bracket (rest : List Char) : Ends (']' :: rest) :=
  fun _ first => .inr (.inl (Option.some.inj first).symm)

theorem ends_brace (rest : List Char) : Ends ('\x7d' :: rest) :=
  fun _ first => .inr (.inr (Option.some.inj first).symm)

/-- Words and numbers are read back. -/
theorem reads_of_readAtom {value : Value} (same : value.sorted = value)
    (read : ∀ rest, Ends rest → readAtom (value.canonicalChars ++ rest) = .ok (value, rest)) :
    Reads value := by
  have alone := read [] (fun _ first => absurd first (by simp))
  rw [List.append_nil] at alone
  have starts := (readAtom_start alone).1
  refine ⟨starts, fun fuel rest ends enough => ?_⟩
  obtain ⟨c, later, chars, -⟩ := starts
  rw [chars, List.length_cons] at enough
  obtain ⟨more, rfl⟩ : ∃ more, fuel = more + 1 := ⟨fuel - 1, by omega⟩
  rw [same]
  exact readValue_of_readAtom (read rest ends) more

theorem reads_str (s : WideText) : Reads (.str s) := by
  refine ⟨⟨'"', _, rfl, by decide, by decide⟩, fun fuel rest _ enough => ?_⟩
  obtain ⟨behind, chars, read⟩ := readString_stringChars s rest
  have positive : 1 ≤ (Value.str s).canonicalChars.length := by
    simp [Value.canonicalChars, stringChars]
  obtain ⟨more, rfl⟩ : ∃ more, fuel = more + 1 := ⟨fuel - 1, by omega⟩
  rw [Value.canonicalChars, chars, readValue, read]
  rfl

/-- The items of an array are read back one after the other. -/
theorem readItems_joinItems {items : List Value} (reads : ∀ item ∈ items, Reads item)
    (some_ : items ≠ []) (before : List Value) (rest : List Char) (fuel : Nat)
    (enough : 2 * (joinItems (items.map Value.canonicalChars)).length + 1 ≤ fuel) :
    readItems fuel none before (joinItems (items.map Value.canonicalChars) ++ ']' :: rest) =
      .ok (.arr (before.reverse ++ items.map Value.sorted), rest) := by
  induction items generalizing before fuel with
  | nil => exact absurd rfl some_
  | cons item later ih =>
    obtain ⟨starts, read⟩ := reads item (List.mem_cons_self ..)
    obtain ⟨more, rfl⟩ : ∃ more, fuel = more + 1 := ⟨fuel - 1, by omega⟩
    cases later with
    | nil =>
      rw [List.map_singleton, joinItems_singleton] at enough ⊢
      rw [readItems, read more _ (ends_bracket rest) (by omega)]
      simp [skipSpaces, isSpace]
    | cons next others =>
      have begins : Starts (joinItems ((next :: others).map Value.canonicalChars)) :=
        (reads next (by simp)).1.joinItems _
      have some_ : (next :: others).map Value.canonicalChars ≠ [] := by simp
      have join := joinItems_cons item.canonicalChars some_
      rw [List.map_cons, join] at enough ⊢
      rw [List.length_append, List.length_cons, List.length_cons] at enough
      have tail := ih (fun other member => reads other (List.mem_cons_of_mem _ member)) (by simp)
        (item.sorted :: before) more (by omega)
      rw [List.append_assoc, List.cons_append, List.cons_append, readItems,
        read more _ (ends_comma _) (by omega)]
      simp only [skipSpaces_comma, (begins.append _).skipSpaces_space, tail]
      simp

theorem starts_memberChars (member : WideText × Value) : Starts (memberChars member) :=
  ⟨'"', _, rfl, by decide, by decide⟩

/-- One member of an object is read back. -/
theorem readMembers_memberChars {key : WideText} {value : Value} (reads : Reads value)
    (before : Members) {rest : List Char} (ends : Ends rest) {fuel : Nat}
    (enough : 2 * value.canonicalChars.length ≤ fuel) :
    readMembers (fuel + 1) none before (memberChars (key, value) ++ rest) =
      match skipSpaces rest with
      | '\x7d' :: rest => .ok (.obj (before.insert key value.sorted), rest)
      | ',' :: rest => readMembers fuel none (before.insert key value.sorted) (skipSpaces rest)
      | _ => .error .malformed := by
  obtain ⟨starts, read⟩ := reads
  obtain ⟨behind, chars, text⟩ := readString_stringChars key
    (':' :: ' ' :: (value.canonicalChars ++ rest))
  have whole : memberChars (key, value) ++ rest = '"' :: behind := by
    rw [← chars]
    simp [memberChars]
  rw [whole, readMembers, text]
  dsimp only
  rw [skipColon_start (starts.append _)]
  dsimp only
  rewrite [read fuel rest ends enough]
  rfl

/-- The members of an object are read back one after the other, behind those read before. -/
theorem readMembers_joinItems {members : List (WideText × Value)}
    (reads : ∀ member ∈ members, Reads member.2) (some_ : members ≠ []) (before : Members)
    (distinct : (Assoc.keys (before ++ members)).Nodup) (rest : List Char) (fuel : Nat)
    (enough : 2 * (joinItems (members.map memberChars)).length + 1 ≤ fuel) :
    readMembers fuel none before (joinItems (members.map memberChars) ++ '\x7d' :: rest) =
      .ok (.obj (before ++ members.map fun member => (member.1, member.2.sorted)), rest) := by
  induction members generalizing before fuel with
  | nil => exact absurd rfl some_
  | cons member later ih =>
    obtain ⟨key, value⟩ := member
    have read : Reads value := reads (key, value) (List.mem_cons_self ..)
    obtain ⟨more, rfl⟩ : ∃ more, fuel = more + 1 := ⟨fuel - 1, by omega⟩
    have fresh := Assoc.notMem_keys_of_nodup distinct
    have inserted : before.insert key value.sorted = before ++ [(key, value.sorted)] :=
      Assoc.insert_of_notMem fresh value.sorted
    have length : value.canonicalChars.length ≤ (memberChars (key, value)).length := by
      change _ ≤ (stringChars key ++ [':', ' '] ++ value.canonicalChars).length
      rw [List.length_append]
      omega
    cases later with
    | nil =>
      rw [List.map_singleton, joinItems_singleton] at enough ⊢
      rw [readMembers_memberChars read before (ends_brace rest) (by omega), inserted]
      simp [skipSpaces, isSpace]
    | cons next others =>
      have begins := (starts_memberChars next).joinItems (others.map memberChars)
      have some_ : (next :: others).map memberChars ≠ [] := by simp
      have join := joinItems_cons (memberChars (key, value)) some_
      rw [List.map_cons, join] at enough ⊢
      rw [List.length_append, List.length_cons, List.length_cons] at enough
      have distinct_ : (Assoc.keys (before ++ [(key, value.sorted)] ++ next :: others)).Nodup := by
        simpa [Assoc.keys] using distinct
      have tail := ih (fun other member => reads other (List.mem_cons_of_mem _ member)) (by simp)
        (before ++ [(key, value.sorted)]) distinct_ more (by omega)
      rw [List.append_assoc, List.cons_append, List.cons_append,
        readMembers_memberChars read before (ends_comma _) (by omega), inserted]
      rw [List.map_cons] at tail ⊢
      simp only [skipSpaces_comma, (begins.append _).skipSpaces_space, tail]
      simp

theorem reads_arr {items : List Value} (reads : ∀ item ∈ items, Reads item) :
    Reads (.arr items) := by
  refine ⟨⟨'[', _, rfl, by decide, by decide⟩, fun fuel rest _ enough => ?_⟩
  rw [Value.canonicalChars, canonicalItems_eq_map] at enough ⊢
  rw [Value.sorted, sortedItems_eq_map]
  obtain ⟨more, rfl⟩ : ∃ more, fuel = more + 1 := ⟨fuel - 1, by simp at enough; omega⟩
  cases items with
  | nil => rfl
  | cons item later =>
    have begins := (reads item (List.mem_cons_self ..)).1.joinItems (later.map Value.canonicalChars)
    simp only [List.length_append, List.length_cons, List.length_nil] at enough
    have tail := readItems_joinItems reads (by simp) [] rest more (by omega)
    rw [List.cons_append, List.cons_append, readValue]
    dsimp only [Room.deeper]
    rw [List.map_cons] at tail ⊢
    rw [List.append_assoc, List.singleton_append, (begins.append _).skipSpaces]
    obtain ⟨c, behind, chars, -, noBracket⟩ := begins.append (']' :: rest)
    rw [chars] at tail ⊢
    split
    · next same => exact absurd (List.cons.inj same).1 noBracket
    · exact tail

theorem reads_obj {members : Members} (reads : ∀ member ∈ members, Reads member.2)
    (distinct : (Assoc.keys members).Nodup) : Reads (.obj members) := by
  refine ⟨⟨'\x7b', _, rfl, by decide, by decide⟩, fun fuel rest _ enough => ?_⟩
  have perm := sortByKey_perm members
  rw [canonicalChars_obj] at enough ⊢
  rw [Value.sorted, sortedMembers_eq_map, sortByKey_map]
  obtain ⟨more, rfl⟩ : ∃ more, fuel = more + 1 := ⟨fuel - 1, by simp at enough; omega⟩
  have reads_ : ∀ member ∈ sortByKey members, Reads member.2 :=
    fun member present => reads member (perm.subset present)
  have distinct_ : (Assoc.keys ([] ++ sortByKey members)).Nodup :=
    (perm.map _).nodup_iff.mpr distinct
  generalize sortByKey members = sorted at *
  cases sorted with
  | nil => rfl
  | cons member later =>
    obtain ⟨behind, chars⟩ : ∃ behind, joinItems ((member :: later).map memberChars) ++
        '\x7d' :: rest = '"' :: behind := by
      obtain ⟨behind, begins⟩ := joinItems_begins (memberChars member) (later.map memberChars)
      exact ⟨_, by rw [List.map_cons, begins]; rfl⟩
    simp only [List.length_append, List.length_cons, List.length_nil] at enough
    have tail := readMembers_joinItems reads_ (by simp) [] distinct_ rest more (by omega)
    rw [List.cons_append, List.cons_append, readValue, List.append_assoc, List.singleton_append]
    rw [chars] at tail ⊢
    exact tail

mutual

/-- A value that can be stored is read back. -/
theorem reads_of_storable : ∀ {value : Value}, value.Storable → Reads value
  | .null, _ => reads_of_readAtom rfl fun _ _ => rfl
  | .bool true, _ => reads_of_readAtom rfl fun _ _ => rfl
  | .bool false, _ => reads_of_readAtom rfl fun _ _ => rfl
  | .int _, short => reads_of_readAtom rfl fun _ ends => readAtom_int short ends
  | .double _, canonical => reads_of_readAtom rfl fun _ ends => readAtom_double canonical ends
  | .str s, _ => reads_str s
  | .arr _, storable => reads_arr (reads_of_itemsStorable storable)
  | .obj _, storable => reads_obj (reads_of_membersStorable storable.2) storable.1

theorem reads_of_itemsStorable : ∀ {items : List Value}, ItemsStorable items →
    ∀ item ∈ items, Reads item
  | [], _, item, member => absurd member List.not_mem_nil
  | first :: rest, ⟨storable, others⟩, item, member => by
    rcases List.mem_cons.mp member with same | later
    · rw [same]
      exact reads_of_storable storable
    · exact reads_of_itemsStorable others item later

theorem reads_of_membersStorable : ∀ {members : List (WideText × Value)}, MembersStorable members →
    ∀ member ∈ members, Reads member.2
  | [], _, item, member => absurd member List.not_mem_nil
  | (_, first) :: rest, ⟨storable, others⟩, item, member => by
    rcases List.mem_cons.mp member with same | later
    · rw [same]
      exact reads_of_storable storable
    · exact reads_of_membersStorable others item later

end

/-- The canonical text of a value that can be stored is read as the value with sorted keys. -/
theorem read_canonical {value : Value} (storable : value.Storable) :
    Value.read value.canonical = .ok value.sorted := by
  obtain ⟨starts, read⟩ := reads_of_storable storable
  have whole := read (2 * value.canonicalChars.length + 2) []
    (fun _ first => absurd first (by simp)) (by omega)
  rw [List.append_nil] at whole
  rw [Value.read, Value.canonical, String.toList_ofList, Value.readWithin, starts.skipSpaces, whole]
  rfl

/-! ## Sorting changes no member -/

@[simp] theorem Members.sorted_nil : sorted [] = [] := by
  rw [sorted, sortedMembers, sortByKey, List.mergeSort_nil]

/-- Whatever a key has, it has in sorted form among sorted members. -/
theorem Members.find?_sorted {members : Members} (distinct : (Assoc.keys members).Nodup)
    (key : WideText) : members.sorted.find? key = (members.find? key).map Value.sorted := by
  rw [sorted, sortedMembers_eq_map, sortByKey_map, find?, Assoc.lookup_map,
    Assoc.lookup_perm distinct (sortByKey_perm members).symm]

theorem Members.child_sorted {members : Members} (distinct : (Assoc.keys members).Nodup)
    (key : WideText) : members.sorted.child key = (members.child key).sorted := by
  rw [child, child, find?_sorted distinct]
  cases members.find? key with
  | none => exact sorted_nil.symm
  | some value =>
    cases value with
    | obj below => rfl
    | _ => exact sorted_nil.symm

theorem Value.string?_sorted (value : Value) : value.sorted.string? = value.string? := by
  cases value <;> rfl

end RegistryMend.Json
