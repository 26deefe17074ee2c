import Mathlib.Data.List.Perm.Basic
import Mathlib.Data.List.Nodup
import RegistryMend.Proofs.Assoc
import RegistryMend.Proofs.Text.Blank
import RegistryMend.Proofs.Text.Lines
import RegistryMend.Settings.Validation

/-! # What a settings text assigns

A settings text is the values that its lines assign to each key, one after the other, of which the
last one counts. Joined texts assign what the first one does and then what the second one does, so
that settings are put together key by key; lines that assign nothing and the order of lines that
assign different keys do not matter.
-/

namespace RegistryMend.Settings

/-! ## Lines -/

/-- A blank line, a comment line, or a line without an equals sign. -/
def Idle (line : List Char) : Prop :=
  Text.trimBlanks line = [] ∨ (Text.trimBlanks line).head? = some '#' ∨ '=' ∉ line

instance (line : List Char) : Decidable (Idle line) :=
  inferInstanceAs (Decidable (_ ∨ _ ∨ _))

/-- Trimming and the word that marks an exported assignment leave the equals signs. -/
theorem equals_mem_withoutExport {line : List Char} :
    '=' ∈ withoutExport (Text.trimBlanks line) ↔ '=' ∈ line := by
  have trimmed (cs : List Char) : '=' ∈ Text.trimBlanks cs ↔ '=' ∈ cs :=
    ⟨Text.mem_of_mem_trimBy, fun member => Text.mem_trimBy member rfl⟩
  rw [← trimmed line, withoutExport]
  split
  · next exported =>
    obtain ⟨rest, split⟩ := List.isPrefixOf_iff_prefix.mp exported
    rw [← split, trimmed]
    simp
  · rfl

theorem readLine_eq_none_iff {line : List Char} : readLine line = none ↔ Idle line := by
  rw [readLine, Idle]
  split
  · next blank => exact iff_of_true rfl (.inl blank)
  · next comment => exact iff_of_true rfl (.inr (.inl (by rw [comment]; rfl)))
  · next blank comment =>
    have marked : (Text.trimBlanks line).head? ≠ some '#' := by
      intro starts
      obtain ⟨rest, same⟩ := List.head?_eq_some_iff.mp starts
      exact comment rest same
    rw [Option.map_eq_none_iff, Text.splitFirst?_eq_none_iff, equals_mem_withoutExport]
    exact (or_iff_right blank).trans (or_iff_right marked) |>.symm

/-- The value that a line assigns to a key. -/
def valueFor (key : String) (line : List Char) : Option String :=
  (readLine line).bind fun (assigned, value) => if assigned = key then some value else none

/-- A line gives its key a new value, and leaves the other keys alone. -/
theorem lookup_assignLine (assignments : Assignments) (line : List Char) (key : String) :
    (assignLine assignments line).lookup key =
      (valueFor key line).or (assignments.lookup key) := by
  rw [assignLine, valueFor]
  cases readLine line with
  | none => rfl
  | some assignment =>
    obtain ⟨assigned, value⟩ := assignment
    simp only [Assoc.lookup_insert, Option.bind_some, eq_comm (a := key)]
    split <;> rfl

/-! ## Texts -/

/-- The values that a text assigns to a key, in the order of its lines. -/
def assigned (key : String) (text : List Char) : List String :=
  (Text.lines text).filterMap (valueFor key)

/-- The last of the values counts, and what there was before if there is none. The induction is on
the lines, with what was assigned before them. -/
theorem lookup_foldl_assignLine (lines : List (List Char)) (before : Assignments) (key : String) :
    (lines.foldl assignLine before).lookup key =
      (lines.filterMap (valueFor key)).getLast?.or (before.lookup key) := by
  induction lines generalizing before with
  | nil => rfl
  | cons line rest ih =>
    rw [List.foldl_cons, ih, lookup_assignLine, ← Option.or_assoc]
    congr 1
    cases value : valueFor key line with
    | none => rw [List.filterMap_cons_none value, Option.or_none]
    | some text =>
      rw [List.filterMap_cons_some value]
      cases rest.filterMap (valueFor key) with
      | nil => rfl
      | cons later others => rw [List.getLast?_cons_cons, List.getLast?_cons, Option.some_or]

theorem lookup_parse (text : List Char) (key : String) :
    (parse text).lookup key = (assigned key text).getLast? := by
  rw [parse, Text.lines_unifyLineEnds, ofLines, lookup_foldl_assignLine, assigned]
  exact Option.or_none

/-- Joined texts assign what the one does and then what the other does. -/
theorem assigned_append_newline (key : String) (a b : List Char) :
    assigned key (a ++ '\n' :: b) = assigned key a ++ assigned key b := by
  obtain ⟨gap, empty, split⟩ := Text.lines_append_newline a b
  have silent : gap.filterMap (valueFor key) = [] := by
    rw [List.filterMap_eq_nil_iff]
    intro line member
    rw [empty line member]
    rfl
  rw [assigned, split, List.filterMap_append, List.filterMap_append, silent, List.nil_append]
  rfl

/-- Only the lines that assign something matter. -/
theorem parse_congr {text other : List Char}
    (same : (Text.lines text).filter (¬ Idle ·) = (Text.lines other).filter (¬ Idle ·)) :
    parse text = parse other := by
  have busy (lines : List (List Char)) (before : Assignments) :
      (lines.filter (¬ Idle ·)).foldl assignLine before = lines.foldl assignLine before := by
    induction lines generalizing before with
    | nil => rfl
    | cons line rest ih =>
      by_cases idle : Idle line
      · have nothing : assignLine before line = before := by
          rw [assignLine, readLine_eq_none_iff.mpr idle]
        rw [List.filter_cons_of_neg (by simpa using idle), ih, List.foldl_cons, nothing]
      · rw [List.filter_cons_of_pos (by simpa using idle), List.foldl_cons, ih, List.foldl_cons]
  rw [parse, parse, Text.lines_unifyLineEnds, Text.lines_unifyLineEnds, ofLines, ofLines,
    ← busy, same, busy]

/-! ## Settings -/

/-- The draft is made from the values that are found. -/
theorem draftOf_congr {assignments others : Assignments}
    (same : ∀ key, assignments.lookup key = others.lookup key) :
    draftOf assignments = draftOf others := by
  simp only [draftOf, given?, same]

theorem load_congr {text other : List Char}
    (same : ∀ key, (assigned key text).getLast? = (assigned key other).getLast?) :
    load text = load other := by
  have found (key : String) : (parse text).lookup key = (parse other).lookup key := by
    rw [lookup_parse, lookup_parse, same]
  rw [load, load, draftOf_congr found]

/-- The key that a line assigns. -/
def keyOf (line : List Char) : Option String :=
  (readLine line).map (·.1)

theorem length_valueFor (lines : List (List Char)) (key : String) :
    (lines.filterMap (valueFor key)).length = (lines.filterMap keyOf).count key := by
  induction lines with
  | nil => rfl
  | cons line rest ih =>
    cases read : readLine line with
    | none =>
      rw [List.filterMap_cons_none (by rw [valueFor, read]; rfl),
        List.filterMap_cons_none (by rw [keyOf, read]; rfl), ih]
    | some assignment =>
      obtain ⟨key_, value⟩ := assignment
      rw [List.filterMap_cons_some (f := keyOf) (by rw [keyOf, read]; rfl), List.count_cons]
      by_cases same : key_ = key
      · rw [List.filterMap_cons_some (b := value) (by simp [valueFor, read, same])]
        simp [ih, same]
      · rw [List.filterMap_cons_none (by simp [valueFor, read, same])]
        simp [ih, same]

/-- Neighbouring lines that assign different keys can change places. -/
theorem filterMap_valueFor_swap {first second : List Char} (apart : keyOf first ≠ keyOf second)
    (before later : List (List Char)) (key : String) :
    (before ++ first :: second :: later).filterMap (valueFor key) =
      (before ++ second :: first :: later).filterMap (valueFor key) := by
  have silent (line : List Char) (none_ : keyOf line ≠ some key) : valueFor key line = none := by
    cases read : readLine line with
    | none => rw [valueFor, read, Option.bind_none]
    | some assignment =>
      rw [keyOf, read] at none_
      rw [valueFor, read, Option.bind_some]
      exact if_neg fun same => none_ (congrArg some same)
  rw [List.filterMap_append, List.filterMap_append]
  by_cases isFirst : keyOf first = some key
  · rw [List.filterMap_cons, List.filterMap_cons, List.filterMap_cons, List.filterMap_cons,
      silent second fun isSecond => apart (isFirst.trans isSecond.symm)]
  · rw [List.filterMap_cons, List.filterMap_cons, List.filterMap_cons, List.filterMap_cons,
      silent first isFirst]

/-- Where no two lines assign the same key, the order of the lines does not matter. -/
theorem assigned_of_perm {text other : List Char}
    (permuted : (Text.lines text).Perm (Text.lines other))
    (distinct : ((Text.lines text).filterMap keyOf).Nodup) (key : String) :
    assigned key text = assigned key other := by
  have values : (assigned key text).Perm (assigned key other) := permuted.filterMap _
  have few : (assigned key text).length ≤ 1 := by
    rw [assigned, length_valueFor]
    exact List.nodup_iff_count_le_one.mp distinct key
  cases first : assigned key text with
  | nil =>
    rw [first] at values
    exact values.nil_eq
  | cons value rest =>
    rw [first] at values few
    obtain rfl : rest = [] := List.length_eq_zero_iff.mp (by simpa using few)
    exact (List.perm_singleton.mp values.symm).symm

/-- Settings are put together key by key: where a second text goes on behind a first one, its
values take the place of those of the first. So the last assignment of a key counts, lines that
assign nothing do not matter, and neither does the order of lines that assign different keys. -/
theorem parse_compositional :
    (∀ a b key, (parse (a ++ '\n' :: b)).lookup key =
      ((parse b).lookup key).or ((parse a).lookup key)) ∧
    (∀ text key, (parse text).lookup key = (assigned key text).getLast?) ∧
    (∀ text other,
      (Text.lines text).filter (¬ Idle ·) = (Text.lines other).filter (¬ Idle ·) →
      parse text = parse other) ∧
    (∀ text other, (∀ key, assigned key text = assigned key other) → load text = load other) ∧
    (∀ text other, (Text.lines text).Perm (Text.lines other) →
      ((Text.lines text).filterMap keyOf).Nodup → load text = load other) := by
  refine ⟨?_, fun text key => lookup_parse text key, fun _ _ => parse_congr, ?_, ?_⟩
  · intro a b key
    rw [lookup_parse, lookup_parse, lookup_parse, assigned_append_newline, List.getLast?_append]
  · intro text other same
    exact load_congr fun key => congrArg List.getLast? (same key)
  · intro text other permuted distinct
    exact load_congr fun key => congrArg List.getLast? (assigned_of_perm permuted distinct key)

theorem parse_compositional_shuffled :
    let text := "export LOG_LEVEL = info\nLOG_LEVEL = warn\nREPAIR_BATCH_SIZE='7'".toList
    let noted :=
      "# levels\nexport LOG_LEVEL = info\n\nLOG_LEVEL = warn\nno sign\nREPAIR_BATCH_SIZE='7'".toList
    let shuffled := "export LOG_LEVEL = info\nREPAIR_BATCH_SIZE='7'\nLOG_LEVEL = warn".toList
    parse noted = parse text ∧ load shuffled = load text ∧
      load "LOG_LEVEL=warn\nREPAIR_BATCH_SIZE=7".toList =
        load "REPAIR_BATCH_SIZE=7\nLOG_LEVEL=warn".toList := by
  intro text noted shuffled
  obtain ⟨-, -, idle, values, orders⟩ := parse_compositional
  refine ⟨idle noted text (by decide +kernel), ?_, orders _ _ (by decide +kernel) (by decide +kernel)⟩
  apply values
  intro key
  have split : Text.lines text = ["export LOG_LEVEL = info".toList] ++
      "LOG_LEVEL = warn".toList :: "REPAIR_BATCH_SIZE='7'".toList :: [] := by decide +kernel
  have swapped : Text.lines shuffled = ["export LOG_LEVEL = info".toList] ++
      "REPAIR_BATCH_SIZE='7'".toList :: "LOG_LEVEL = warn".toList :: [] := by decide +kernel
  rw [assigned, assigned, split, swapped, filterMap_valueFor_swap (by decide +kernel)]

end RegistryMend.Settings
