import Mathlib.Data.List.Forall2
import Mathlib.Data.List.Nodup
import RegistryMend.Proofs.Sequencing
import RegistryMend.Proofs.Text.Blank
import RegistryMend.Schedule.Cron

/-! # The grammar of cron expressions

The texts of pieces are told by rules, one for each form that a piece can have. A field is read
exactly if all its pieces are texts of that kind and stay within the values of the field, and an
expression of five fields exactly if all of them are read; otherwise the first one that is not is
named, in the order in which they are read.
-/

namespace RegistryMend.Schedule

/-! ## Texts of pieces -/

/-- A number as digits of any script, of which there are not too many. -/
structure Counts (digits : List Char) (n : Nat) : Prop where
  some_ : digits ≠ []
  decimal : ∀ c ∈ digits, (Text.decimalValue? c).isSome = true
  short : digits.length ≤ Text.maximalDigits
  value : Text.natOfDigits (Text.asciiDigits digits) = n

/-- A number with a mark before it, or nothing. -/
inductive Marked (mark : Char) : List Char → Option Nat → Prop where
  | absent : Marked mark [] none
  | present {digits : List Char} {n : Nat} (counts : Counts digits n) :
      Marked mark (mark :: digits) (some n)

/-- Letters of any case that are the name at a place. -/
structure Spells (names : List String) (word : List Char) (place : Nat) : Prop where
  letters : ∀ c ∈ word, isNameLetter c = true
  found : names[place]? = some (Text.lowerCase (String.ofList word))

/-- The texts of a piece. Behind names there may be anything that is not a part of them. -/
inductive Writes (range : Range) : List Char → Piece → Prop where
  | every {by_ : List Char} {step : Option Nat} (stepped : Marked '/' by_ step) :
      Writes range ('*' :: by_) (.every step)
  | value {digits : List Char} {n : Nat} (counts : Counts digits n) :
      Writes range digits (.values n (some n) none)
  | values {digits upTo by_ : List Char} {first : Nat} {last step : Option Nat}
      (counts : Counts digits first) (ends : Marked '-' upTo last) (stepped : Marked '/' by_ step)
      (several : last.isSome ∨ step.isSome) :
      Writes range (digits ++ upTo ++ by_) (.values first last step)
  | lastOfAll {text : List Char} (known : range.hasLast = true)
      (starts : startsWithLast text = true) : Writes range text .lastOfAll
  | name {word rest : List Char} {place : Nat} (spells : Spells range.names word place)
      (apart : ∀ c, rest.head? = some c → isNameLetter c = false)
      (single : ∀ c more, rest = '-' :: c :: more → isNameLetter c = false) :
      Writes range (word ++ rest) (.named place place)
  | names {word other rest : List Char} {first last : Nat}
      (spells : Spells range.names word first) (ends : Spells range.names other last)
      (apart : ∀ c, rest.head? = some c → isNameLetter c = false) :
      Writes range (word ++ '-' :: (other ++ rest)) (.named first last)

/-! ## Numbers -/

section

variable {cs digits rest part : List Char} {mark : Char} {n : Nat} {number : Option Nat}

theorem readCount?_append (counts : Counts digits n) (rest : List Char)
    (apart : ∀ c, rest.head? = some c → (Text.decimalValue? c).isSome = false) :
    readCount? (digits ++ rest) = some (n, rest) := by
  have run := Text.takeWhile_append_of_apart counts.decimal apart
  have given : digits.isEmpty = false := List.isEmpty_eq_false_iff.mpr counts.some_
  have few : ¬ Text.maximalDigits < digits.length := Nat.not_lt.mpr counts.short
  simp [readCount?, run, given, few, counts.value]

theorem counts_of_readCount? (read : readCount? cs = some (n, rest)) :
    ∃ digits, Counts digits n ∧ cs = digits ++ rest := by
  unfold readCount? at read
  dsimp only at read
  split at read
  · cases read
  · next usable =>
    simp only [Bool.or_eq_true, List.isEmpty_iff, decide_eq_true_eq, not_or, Nat.not_lt] at usable
    cases read
    refine ⟨_, ⟨usable.1, fun _ => List.mem_takeWhile_imp, usable.2, rfl⟩, ?_⟩
    have front := List.prefix_iff_eq_take.mp
      (List.takeWhile_prefix (fun c => (Text.decimalValue? c).isSome) (l := cs))
    conv_rhs => arg 1; rw [front]
    rw [List.take_append_drop]

theorem readMarked?_append (marked : Marked mark part number) (rest : List Char)
    (apart : ∀ c, rest.head? = some c → c ≠ mark ∧ (Text.decimalValue? c).isSome = false) :
    readMarked? mark (part ++ rest) = some (number, rest) := by
  cases marked with
  | absent =>
    cases rest with
    | nil => rfl
    | cons c rest => rw [List.nil_append, readMarked?, if_neg (apart c rfl).1]
  | present counts =>
    have counted := readCount?_append counts rest fun c first => (apart c first).2
    rw [List.cons_append, readMarked?, if_pos rfl, counted]
    rfl

theorem marked_of_readMarked? (read : readMarked? mark cs = some (number, rest)) :
    ∃ part, Marked mark part number ∧ cs = part ++ rest := by
  cases cs with
  | nil =>
    cases read
    exact ⟨[], .absent, rfl⟩
  | cons c more =>
    rw [readMarked?] at read
    split at read
    · next same =>
      obtain ⟨⟨n, behind⟩, counted, pair⟩ := Option.map_eq_some_iff.mp read
      cases pair
      obtain ⟨digits, counts, rfl⟩ := counts_of_readCount? counted
      exact ⟨mark :: digits, .present counts, by rw [same, List.cons_append]⟩
    · cases read
      exact ⟨[], .absent, rfl⟩

/-- What a mark starts is apart from digits and from other marks. -/
theorem Marked.head? (marked : Marked mark part number) {c : Char} (first : part.head? = some c) :
    c = mark := by
  cases marked with
  | absent => cases first
  | present _ => exact (Option.some.inj first).symm

end

/-! ## Pieces -/

section

variable {range : Range} {cs : List Char} {piece : Piece}

theorem writes_of_readEvery? (read : readEvery? cs = some piece) : Writes range cs piece := by
  unfold readEvery? at read
  split at read
  · next rest =>
    split at read
    · next step marked =>
      cases read
      obtain ⟨part, stepped, rfl⟩ := marked_of_readMarked? marked
      rw [List.append_nil]
      exact .every stepped
    · cases read
  · cases read

theorem writes_of_readValues? (read : readValues? cs = some piece) : Writes range cs piece := by
  simp only [readValues?, bind, Option.bind_eq_some_iff] at read
  obtain ⟨⟨first, afterFirst⟩, counted, ⟨last, afterLast⟩, ended, ⟨step, afterStep⟩, stepped,
    made⟩ := read
  dsimp only at counted ended stepped made
  split at made
  · next whole =>
    obtain ⟨digits, counts, rfl⟩ := counts_of_readCount? counted
    obtain ⟨upTo, ends, rfl⟩ := marked_of_readMarked? ended
    obtain ⟨by_, steps, rfl⟩ := marked_of_readMarked? stepped
    rw [List.isEmpty_iff.mp whole, List.append_nil, ← List.append_assoc]
    cases made
    by_cases several : last.isSome ∨ step.isSome
    · have plain : (last.isNone && step.isNone) = false := by
        cases last <;> cases step <;> simp_all
      rw [plain]
      exact .values counts ends steps several
    · simp only [not_or, Bool.not_eq_true, Option.isSome_eq_false_iff, Option.isNone_iff_eq_none]
        at several
      obtain ⟨rfl, rfl⟩ := several
      cases ends
      cases steps
      simpa using Writes.value counts
  · cases made

/-- The place of a name is where it stands, since no name stands twice. -/
theorem placeOf?_eq_some_iff {names : List String} (distinct : names.Nodup) {word : List Char}
    {place : Nat} : placeOf? names word = some place ↔
      names[place]? = some (Text.lowerCase (String.ofList word)) := by
  rw [placeOf?, List.findIdx?_eq_some_iff_getElem, List.getElem?_eq_some_iff]
  constructor
  · rintro ⟨inside, same, -⟩
    exact ⟨inside, by simpa using same⟩
  · rintro ⟨inside, same⟩
    refine ⟨inside, by simp [same], ?_⟩
    intro before earlier matched
    have twice : names[before] = names[place] := by rw [same]; simpa using matched
    exact absurd (distinct.getElem_inj_iff.mp twice) (Nat.ne_of_lt earlier)

theorem spells_takeWhile {names : List String} (distinct : names.Nodup) {place : Nat}
    (found : placeOf? names (cs.takeWhile isNameLetter) = some place) :
    Spells names (cs.takeWhile isNameLetter) place :=
  ⟨fun _ => List.mem_takeWhile_imp, (placeOf?_eq_some_iff distinct).mp found⟩

theorem writes_of_readNamed? (distinct : range.names.Nodup)
    (read : readNamed? range.names cs = some piece) : Writes range cs piece := by
  simp only [readNamed?, bind, Option.bind_eq_some_iff] at read
  obtain ⟨first, found, read⟩ := read
  have spells := spells_takeWhile distinct found
  have apart {text : List Char} {c : Char}
      (starts : (text.dropWhile isNameLetter).head? = some c) : isNameLetter c = false :=
    Text.head?_dropWhile starts
  rw [← List.takeWhile_append_dropWhile (p := isNameLetter) (l := cs)]
  split at read
  · next rest behind =>
    split at read
    · next nameless =>
      cases read
      refine .name spells (fun c => apart) ?_
      intro c more same
      rw [behind, List.cons.injEq] at same
      by_contra letter
      rw [same.2, List.takeWhile_cons_of_pos (by simpa using letter)] at nameless
      cases nameless
    · obtain ⟨last, ends, made⟩ := Option.bind_eq_some_iff.mp read
      cases made
      rw [behind, ← List.takeWhile_append_dropWhile (p := isNameLetter) (l := rest)]
      exact .names spells (spells_takeWhile distinct ends) fun c => apart
  · next alone =>
    cases read
    exact .name spells (fun c => apart) fun c more same => absurd same (alone _)

/-- A text is read in one way only, which its first character tells. -/
theorem readEvery?_eq_none (other : ∀ c, cs.head? = some c → c ≠ '*') : readEvery? cs = none := by
  unfold readEvery?
  split
  · exact absurd rfl (other _ rfl)
  · rfl

theorem readEvery?_of_counts {digits : List Char} {n : Nat} (counts : Counts digits n)
    (rest : List Char) : readEvery? (digits ++ rest) = none := by
  apply readEvery?_eq_none
  rintro c first rfl
  obtain ⟨d, more, rfl⟩ := List.exists_cons_of_ne_nil counts.some_
  obtain rfl : d = '*' := Option.some.inj first
  have digit := counts.decimal '*' List.mem_cons_self
  revert digit
  decide

theorem readValues?_eq_none
    (other : ∀ c, cs.head? = some c → (Text.decimalValue? c).isSome = false) :
    readValues? cs = none := by
  have uncounted : readCount? cs = none := by
    cases cs with
    | nil => rfl
    | cons c rest => simp [readCount?, other c rfl]
  rw [readValues?, uncounted]
  rfl

theorem readEvery?_of_marked {by_ : List Char} {step : Option Nat} (stepped : Marked '/' by_ step) :
    readEvery? ('*' :: by_) = some (.every step) := by
  have marked := readMarked?_append stepped [] nofun
  rw [List.append_nil] at marked
  simp only [readEvery?, marked]

theorem readValues?_of_marked {digits upTo by_ : List Char} {first : Nat} {last step : Option Nat}
    (counts : Counts digits first) (ends : Marked '-' upTo last) (stepped : Marked '/' by_ step) :
    readValues? (digits ++ upTo ++ by_) =
      some (.values first (if last.isNone && step.isNone then some first else last) step) := by
  have atMark {c : Char} (mark : c = '-' ∨ c = '/') : (Text.decimalValue? c).isSome = false := by
    rcases mark with rfl | rfl <;> decide
  have counted := readCount?_append counts (upTo ++ by_) fun c first => atMark (by
    rw [List.head?_append, Option.or_eq_some_iff] at first
    exact first.imp ends.head? fun behind => stepped.head? behind.2)
  have ended := readMarked?_append ends by_ fun c first =>
    ⟨by rw [stepped.head? first]; decide, atMark (.inr (stepped.head? first))⟩
  have stepping := readMarked?_append stepped [] nofun
  rw [List.append_nil] at stepping
  rw [List.append_assoc]
  simp [readValues?, counted, ended, stepping]

theorem decimalZeros_apart : ∀ start ∈ Text.decimalZeros, start + 10 ≤ 65 ∨ 122 < start := by
  decide

/-- Letters of names are no digits. -/
theorem decimalValue?_of_isNameLetter {c : Char} (letter : isNameLetter c = true) :
    (Text.decimalValue? c).isSome = false := by
  simp only [isNameLetter, Bool.or_eq_true, beq_iff_eq] at letter
  rcases letter with (((alpha | rfl) | rfl) | rfl) | rfl
  · have ascii : (65 ≤ c.toNat ∧ c.toNat ≤ 90) ∨ (97 ≤ c.toNat ∧ c.toNat ≤ 122) := by
      delta Char.isAlpha Char.isUpper Char.isLower at alpha
      simpa [UInt32.le_iff_toNat_le] using alpha
    rw [Text.decimalValue?, Option.isSome_map, Option.isSome_eq_false_iff,
      Option.isNone_iff_eq_none, List.find?_eq_none]
    intro start member
    have apart := decimalZeros_apart start member
    simp only [Bool.and_eq_true, decide_eq_true_eq]
    omega
  all_goals decide

theorem isAlpha_of_toLower {c : Char} (lower : c.toLower.isAlpha = true) : c.isAlpha = true := by
  delta Char.toLower at lower
  split at lower
  · next upper =>
    delta Char.isAlpha Char.isUpper
    rw [decide_eq_true upper, Bool.true_or]
  · exact lower

/-- A text that starts with a letter gives no numbers. -/
theorem read?_of_letter {c : Char} (first : cs.head? = some c) (letter : isNameLetter c = true) :
    readEvery? cs = none ∧ readValues? cs = none := by
  refine ⟨readEvery?_eq_none ?_, readValues?_eq_none ?_⟩
  · intro d isFirst
    obtain rfl : c = d := Option.some.inj (first.symm.trans isFirst)
    rintro rfl
    cases letter
  · intro d isFirst
    obtain rfl : c = d := Option.some.inj (first.symm.trans isFirst)
    exact decimalValue?_of_isNameLetter letter

theorem head?_of_startsWithLast (starts : startsWithLast cs = true) :
    ∃ c, cs.head? = some c ∧ isNameLetter c = true := by
  unfold startsWithLast at starts
  split at starts
  · next l a s t _ =>
    simp only [Bool.and_eq_true, decide_eq_true_eq] at starts
    have alpha : l.isAlpha = true := isAlpha_of_toLower (by rw [starts.1.1.1]; decide)
    exact ⟨l, rfl, by simp [isNameLetter, alpha]⟩
  · cases starts

theorem readNamed?_of_name {names : List String} (distinct : names.Nodup)
    {word rest : List Char} {place : Nat} (spells : Spells names word place)
    (apart : ∀ c, rest.head? = some c → isNameLetter c = false)
    (single : ∀ c more, rest = '-' :: c :: more → isNameLetter c = false) :
    readNamed? names (word ++ rest) = some (.named place place) := by
  have found := (placeOf?_eq_some_iff distinct).mpr spells.found
  rw [readNamed?, Text.takeWhile_append_of_apart spells.letters apart,
    Text.dropWhile_append_of_apart spells.letters apart, found]
  cases rest with
  | nil => rfl
  | cons mark more =>
    by_cases dash : mark = '-'
    · subst dash
      have nameless : more.takeWhile isNameLetter = [] := by
        cases more with
        | nil => rfl
        | cons c more => exact List.takeWhile_cons_of_neg (by simp [single c more rfl])
      simp [nameless]
    · simp [dash]

theorem readNamed?_of_names {names : List String} (distinct : names.Nodup)
    {word other rest : List Char} {first last : Nat} (spells : Spells names word first)
    (ends : Spells names other last) (some_ : other ≠ [])
    (apart : ∀ c, rest.head? = some c → isNameLetter c = false) :
    readNamed? names (word ++ '-' :: (other ++ rest)) = some (.named first last) := by
  have atDash : ∀ c, ('-' :: (other ++ rest)).head? = some c → isNameLetter c = false := by
    rintro c ⟨⟩
    decide
  have found := (placeOf?_eq_some_iff distinct).mpr spells.found
  have foundLast := (placeOf?_eq_some_iff distinct).mpr ends.found
  rw [readNamed?, Text.takeWhile_append_of_apart spells.letters atDash,
    Text.dropWhile_append_of_apart spells.letters atDash, found]
  simp [Text.takeWhile_append_of_apart ends.letters apart, some_, foundLast]

end

/-! ## Fields -/

/-- No name of a field is empty or stands twice, and a field with names has no last value. -/
theorem Field.names_distinct (field : Field) :
    field.range.names.Nodup ∧ "" ∉ field.range.names ∧
      (field.range.hasLast = true → field.range.names = []) := by
  cases field <;> decide

theorem Spells.ne_nil {field : Field} {word : List Char} {place : Nat}
    (spells : Spells field.range.names word place) : word ≠ [] := by
  rintro rfl
  have empty : Text.lowerCase (String.ofList []) = "" := by rfl
  have member := List.mem_of_getElem? spells.found
  rw [empty] at member
  exact field.names_distinct.2.1 member

theorem Spells.not_hasLast {field : Field} {word : List Char} {place : Nat}
    (spells : Spells field.range.names word place) : field.range.hasLast = false := by
  by_contra last
  have none_ := field.names_distinct.2.2 (by simpa using last)
  have found := spells.found
  rw [none_] at found
  cases found

/-- A piece is read from its texts, provided that it stays within the values of its field. -/
theorem read?_eq_some_iff {field : Field} {cs : List Char} {piece : Piece} :
    Piece.read? field.range cs = some piece ↔
      Writes field.range cs piece ∧ piece.fits field.range = true := by
  have distinct := field.names_distinct.1
  rw [Piece.read?, Option.filter_eq_some_iff]
  refine and_congr_left fun _ => ?_
  constructor
  · intro read
    rcases Option.or_eq_some_iff.mp read with every | ⟨-, read⟩
    · exact writes_of_readEvery? every
    · rcases Option.or_eq_some_iff.mp read with values | ⟨-, read⟩
      · exact writes_of_readValues? values
      · split at read
        · next last =>
          rw [Bool.and_eq_true] at last
          cases read
          exact .lastOfAll last.1 last.2
        · exact writes_of_readNamed? distinct read
  · intro writes
    have byName {word rest : List Char} {place : Nat}
        (spells : Spells field.range.names word place)
        (named : readNamed? field.range.names (word ++ rest) = some piece) :
        (readEvery? (word ++ rest)).or ((readValues? (word ++ rest)).or
          (if field.range.hasLast && startsWithLast (word ++ rest) then some .lastOfAll
            else readNamed? field.range.names (word ++ rest))) = some piece := by
      obtain ⟨c, more, rfl⟩ := List.exists_cons_of_ne_nil spells.ne_nil
      have first : (c :: more ++ rest).head? = some c := rfl
      have others := read?_of_letter first (spells.letters c List.mem_cons_self)
      rw [others.1, others.2, spells.not_hasLast]
      simpa using named
    cases writes with
    | every stepped => rw [readEvery?_of_marked stepped, Option.some_or]
    | value counts =>
      have values := readValues?_of_marked counts .absent .absent
      rw [List.append_nil, List.append_nil] at values
      have every := readEvery?_of_counts counts []
      rw [List.append_nil] at every
      rw [every, values]
      rfl
    | @values _ _ _ _ last step counts ends stepped several =>
      have plain : (last.isNone && step.isNone) = false := by
        cases last <;> cases step <;> simp_all
      rw [readValues?_of_marked counts ends stepped, plain, List.append_assoc,
        readEvery?_of_counts counts]
      rfl
    | lastOfAll known starts =>
      obtain ⟨c, first, letter⟩ := head?_of_startsWithLast starts
      have others := read?_of_letter first letter
      rw [others.1, others.2, known, starts]
      rfl
    | name spells apart single =>
      exact byName spells (readNamed?_of_name distinct spells apart single)
    | names spells ends apart =>
      exact byName spells (readNamed?_of_names distinct spells ends ends.ne_nil apart)

theorem mapM_eq_some_iff {α β : Type} {f : α → Option β} {items : List α} {values : List β} :
    items.mapM f = some values ↔
      List.Forall₂ (fun item value => f item = some value) items values := by
  induction items generalizing values with
  | nil => cases values <;> simp [eq_comm]
  | cons item rest ih =>
    rw [List.mapM_cons]
    cases values with
    | nil => simp [Option.bind_eq_some_iff]
    | cons value others => simp [Option.bind_eq_some_iff, ih]

/-- The pieces that a word gives for a field. -/
def Gives (field : Field) (word : List Char) (pieces : List Piece) : Prop :=
  List.Forall₂ (fun part piece => Writes field.range part piece ∧ piece.fits field.range = true)
    (word.splitOn ',') pieces

theorem readField_eq_ok_iff {field : Field} {word : List Char} {pieces : List Piece} :
    readField field word = .ok pieces ↔ Gives field word pieces := by
  have reads : (word.splitOn ',').mapM (Piece.read? field.range) = some pieces ↔
      Gives field word pieces := by
    rw [mapM_eq_some_iff, Gives]
    simp only [read?_eq_some_iff]
  rw [← reads, readField]
  cases (word.splitOn ',').mapM (Piece.read? field.range) <;> simp

/-- A word that a field can be read from. -/
def Readable (field : Field) (word : List Char) : Prop :=
  ∃ pieces, Gives field word pieces

theorem readField_eq_error_iff {field : Field} {word : List Char} {problem : CronProblem} :
    readField field word = .error problem ↔ problem = .badField field ∧ ¬ Readable field word := by
  simp only [Readable, ← readField_eq_ok_iff, readField]
  cases (word.splitOn ',').mapM (Piece.read? field.range) <;> simp [eq_comm]

/-! ## Expressions -/

/-- An expression is read exactly if each of its words gives a field, one after the other. -/
theorem parse_eq_ok_iff {expression : String} {cron : Cron} :
    Cron.parse expression = .ok cron ↔
      List.Forall₂ (fun field word => Gives field word (cron.pieces field)) Field.all
        (Text.words expression.toList) := by
  simp only [← readField_eq_ok_iff]
  unfold Cron.parse
  split
  · next minute hour day month dayOfWeek split =>
    simp only [bind_eq_ok_iff, split, Field.all, List.forall₂_cons, List.forall₂_nil_right_iff,
      and_true, Cron.pieces]
    constructor
    · rintro ⟨_, ofMonth, _, ofDay, _, ofWeekday, _, ofHour, _, ofMinute, made⟩
      cases made
      exact ⟨ofMinute, ofHour, ofDay, ofMonth, ofWeekday⟩
    · rintro ⟨ofMinute, ofHour, ofDay, ofMonth, ofWeekday⟩
      exact ⟨_, ofMonth, _, ofDay, _, ofWeekday, _, ofHour, _, ofMinute, rfl⟩
  · next others =>
    refine iff_of_false nofun fun all => ?_
    generalize Text.words expression.toList = words at others all
    rcases all with _ | ⟨-, _ | ⟨-, _ | ⟨-, _ | ⟨-, _ | ⟨-, ⟨⟩⟩⟩⟩⟩⟩
    exact others _ _ _ _ _ rfl

/-- Words that all fields can be read from, one each. -/
def Crontab (words : List (List Char)) : Prop :=
  List.Forall₂ Readable Field.all words

/-- The order in which fields are read. -/
def Field.readingOrder : List Field := [.month, .day, .dayOfWeek, .hour, .minute]

/-- A field that cannot be read from its word, while all those that are read before it can be read from
theirs. -/
def FirstUnreadable (field : Field) (words : List (List Char)) : Prop :=
  ∃ before later, Field.readingOrder = before ++ field :: later ∧
    (∀ other ∈ before, ∀ word, (other, word) ∈ Field.all.zip words → Readable other word) ∧
    ∃ word, (field, word) ∈ Field.all.zip words ∧ ¬ Readable field word

theorem firstUnreadable_of_parse {expression : String} {field : Field}
    (failed : Cron.parse expression = .error (.badField field)) :
    FirstUnreadable field (Text.words expression.toList) := by
  have readable {field : Field} {word : List Char} {pieces : List Piece}
      (read : readField field word = .ok pieces) : Readable field word :=
    ⟨pieces, readField_eq_ok_iff.mp read⟩
  unfold Cron.parse at failed
  split at failed
  · next minute hour day month dayOfWeek split =>
    rw [split]
    simp only [bind_eq_error_iff, readField_eq_error_iff, CronProblem.badField.injEq] at failed
    rcases failed with ⟨rfl, atMonth⟩ | ⟨_, ofMonth, ⟨rfl, atDay⟩ | ⟨_, ofDay,
      ⟨rfl, atWeekday⟩ | ⟨_, ofWeekday, ⟨rfl, atHour⟩ | ⟨_, ofHour, ⟨rfl, atMinute⟩ | ⟨_, -, none_⟩⟩⟩⟩⟩
    · exact ⟨[], _, rfl, nofun, month, by simp [Field.all], atMonth⟩
    · exact ⟨[.month], _, rfl, by simpa [Field.all] using readable ofMonth, day, by simp [Field.all],
        atDay⟩
    · exact ⟨[.month, .day], _, rfl,
        by simpa [Field.all] using ⟨readable ofMonth, readable ofDay⟩, dayOfWeek, by simp [Field.all],
        atWeekday⟩
    · exact ⟨[.month, .day, .dayOfWeek], _, rfl,
        by simpa [Field.all] using ⟨readable ofMonth, readable ofDay, readable ofWeekday⟩, hour,
        by simp [Field.all], atHour⟩
    · exact ⟨[.month, .day, .dayOfWeek, .hour], _, rfl,
        by simpa [Field.all] using
          ⟨readable ofMonth, readable ofDay, readable ofWeekday, readable ofHour⟩, minute,
        by simp [Field.all], atMinute⟩
    · cases none_
  · cases failed

theorem FirstUnreadable.not_crontab {field : Field} {words : List (List Char)}
    (first : FirstUnreadable field words) : ¬ Crontab words := by
  obtain ⟨before, later, -, -, word, member, unreadable⟩ := first
  intro crontab
  exact unreadable ((List.forall₂_iff_zip.mp crontab).2 member)

/-- A field is at fault in five words, and not their number. -/
theorem parse_ne_fieldCount {expression : String}
    (five : (Text.words expression.toList).length = 5) :
    Cron.parse expression ≠ .error .fieldCount := by
  intro failed
  unfold Cron.parse at failed
  split at failed
  · simp only [bind_eq_error_iff, readField_eq_error_iff] at failed
    rcases failed with ⟨⟨⟩, -⟩ | ⟨_, -, ⟨⟨⟩, -⟩ | ⟨_, -, ⟨⟨⟩, -⟩ | ⟨_, -, ⟨⟨⟩, -⟩ | ⟨_, -, ⟨⟨⟩, -⟩ |
      ⟨_, -, ⟨⟩⟩⟩⟩⟩⟩
  · next others =>
    match Text.words expression.toList, five, others with
    | [_, _, _, _, _], _, others => exact others _ _ _ _ _ rfl

/-- Five words are an expression exactly if every field can be read from its word, and otherwise
the first field that cannot is at fault. -/
theorem parse_of_five {expression : String} (five : (Text.words expression.toList).length = 5) :
    (Crontab (Text.words expression.toList) → ∃ cron, Cron.parse expression = .ok cron) ∧
    (¬ Crontab (Text.words expression.toList) → ∃ field,
      FirstUnreadable field (Text.words expression.toList) ∧
      Cron.parse expression = .error (.badField field)) := by
  cases parsed : Cron.parse expression with
  | ok cron =>
    have crontab : Crontab (Text.words expression.toList) :=
      (parse_eq_ok_iff.mp parsed).imp fun _ _ gives => ⟨_, gives⟩
    exact ⟨fun _ => ⟨cron, rfl⟩, absurd crontab⟩
  | error problem =>
    cases problem with
    | fieldCount => exact absurd parsed (parse_ne_fieldCount five)
    | badField field =>
      have first := firstUnreadable_of_parse parsed
      exact ⟨fun crontab => absurd crontab first.not_crontab, fun _ => ⟨field, first, rfl⟩⟩

example : Cron.parse "*/15 2-4 last 2-13 someday" = .error (.badField .month) := by decide +kernel

end RegistryMend.Schedule
