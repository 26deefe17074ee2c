import Mathlib.Algebra.Ring.Nat
import Mathlib.Data.List.Basic
import Mathlib.Data.List.TakeWhile
import RegistryMend.Archive.Pax

/-! # Headers of the ustar form

A header of this form has octal numbers, a name without its first part, and the kind of a file or a
directory. It is read as what it says.
-/

namespace RegistryMend.Archive

open RegistryMend.Text

/-! ## Octal numbers -/

/-- The number that octal digits stand for. -/
def octalValue (digits : List UInt8) : Nat :=
  digits.foldl (fun n digit => 8 * n + (digit.toNat - 48)) 0

/-- Bytes are octal digits with blanks before them, and blanks or zeros behind them. -/
inductive Octal : List UInt8 → Nat → Prop
  | intro {blanks digits padding : List UInt8} (blank : ∀ byte ∈ blanks, byte = 32)
      (octal : ∀ digit ∈ digits, digit ∈ asciiBytes "01234567")
      (padded : ∀ byte ∈ padding, byte = 0 ∨ byte = 32) :
      Octal (blanks ++ (digits ++ padding)) (octalValue digits)

theorem dropWhile_append_of_head {α : Type} {drop : α → Bool} {before rest : List α}
    (dropped : ∀ a ∈ before, drop a = true) (kept : ∀ a, rest.head? = some a → drop a = false) :
    (before ++ rest).dropWhile drop = rest := by
  rw [List.dropWhile_append_of_pos dropped]
  cases rest with
  | nil => rfl
  | cons a rest => exact List.dropWhile_cons_of_neg (by simp [kept a rfl])

theorem trimBy_append {drop : Char → Bool} {before middle after : List Char}
    (dropped : ∀ c ∈ before, drop c = true) (dropped_ : ∀ c ∈ after, drop c = true)
    (kept : ∀ c ∈ middle, drop c = false) : trimBy drop (before ++ (middle ++ after)) = middle := by
  rw [trimBy]
  cases middle with
  | nil =>
    have nothing : (before ++ after).dropWhile drop = [] := by
      have all : (before ++ after ++ []).dropWhile drop = [] :=
        dropWhile_append_of_head (by simpa [or_imp, forall_and] using ⟨dropped, dropped_⟩) nofun
      rwa [List.append_nil] at all
    rw [List.nil_append, nothing]
    rfl
  | cons c middle =>
    rw [dropWhile_append_of_head dropped (by simpa using kept c List.mem_cons_self),
      List.reverse_append, dropWhile_append_of_head (by simpa using dropped_), List.reverse_reverse]
    intro last isLast
    rw [List.head?_reverse] at isLast
    exact kept last (List.mem_of_getLast? isLast)

theorem withoutUnderscores_eq {cs : List Char} (before : Option Char)
    (plain : ∀ c ∈ cs, c ≠ '_') : withoutUnderscores before cs = some cs := by
  induction cs generalizing before with
  | nil => rw [withoutUnderscores]
  | cons c cs ih =>
    have first := plain c List.mem_cons_self
    rw [withoutUnderscores]
    · rw [ih _ fun c mem => plain c (List.mem_cons_of_mem _ mem)]
      rfl
    · rintro _ _ rfl
      exact absurd rfl first
    · rintro rfl
      exact absurd rfl first

theorem splitSign_eq {cs : List Char} (minus : ∀ c ∈ cs, c ≠ '-') (plus : ∀ c ∈ cs, c ≠ '+') :
    splitSign cs = (false, cs) := by
  rw [splitSign.eq_def]
  split
  · exact absurd rfl (minus _ List.mem_cons_self)
  · exact absurd rfl (plus _ List.mem_cons_self)
  · rfl

theorem withoutOctalMark_eq {cs : List Char} (small : ∀ c ∈ cs, c ≠ 'o')
    (capital : ∀ c ∈ cs, c ≠ 'O') : withoutOctalMark cs = cs := by
  rw [withoutOctalMark.eq_def]
  split
  · next mark rest =>
    have mem : mark ∈ '0' :: mark :: rest := by simp
    rw [if_neg (not_or.mpr ⟨small mark mem, capital mark mem⟩)]
  · rfl

theorem readOctal?_digits {before digits behind : List Char}
    (blank : ∀ c ∈ before, isBlank c = true) (blank_ : ∀ c ∈ behind, isBlank c = true)
    (octal : ∀ c ∈ digits, c ∈ "01234567".toList) :
    readOctal? (before ++ (digits ++ behind)) =
      some ((digits.foldl (fun n c => 8 * n + (c.toNat - 48)) 0 : Nat) : Int) := by
  have facts : ∀ c ∈ "01234567".toList, isBlank c = false ∧ isOctalDigit c = true ∧ c ≠ '_' ∧
      c ≠ '-' ∧ c ≠ '+' ∧ c ≠ 'o' ∧ c ≠ 'O' :=
    List.forall_iff_forall_mem.mp (by decide)
  have fact (c : Char) (mem : c ∈ digits) := facts c (octal c mem)
  have trimmed : trimBlanks (before ++ (digits ++ behind)) = digits :=
    trimBy_append blank blank_ fun c mem => (fact c mem).1
  have sign := splitSign_eq (fun c mem => (fact c mem).2.2.2.1) fun c mem => (fact c mem).2.2.2.2.1
  have mark := withoutOctalMark_eq (fun c mem => (fact c mem).2.2.2.2.2.1)
    fun c mem => (fact c mem).2.2.2.2.2.2
  have plain := withoutUnderscores_eq none fun c mem => (fact c mem).2.2.1
  have all : digits.all isOctalDigit = true := by
    rw [List.all_eq_true]
    exact fun c mem => (fact c mem).2.1
  rw [readOctal?, trimmed]
  cases digits with
  | nil => rfl
  | cons c cs =>
    dsimp only [List.isEmpty_cons]
    rw [if_neg Bool.false_ne_true, sign]
    dsimp only
    rw [mark, plain]
    dsimp only [Option.bind_eq_bind, Option.bind_some, List.isEmpty_cons]
    rw [all]
    rfl

theorem Octal.ascii {bytes : List UInt8} {n : Nat} (octal : Octal bytes n) :
    ∀ byte ∈ bytes, byte < 128 := by
  cases octal with
  | intro blank digits padded =>
    have ascii : ∀ digit ∈ asciiBytes "01234567", digit < 128 :=
      List.forall_iff_forall_mem.mp (by decide)
    intro byte mem
    rw [List.mem_append, List.mem_append] at mem
    rcases mem with mem | mem | mem
    · rw [blank byte mem]
      decide
    · exact ascii byte (digits byte mem)
    · rcases padded byte mem with rfl | rfl <;> decide

/-- A field with an octal number is read as the number. -/
theorem numberField?_of_octal {bytes : List UInt8} {n : Nat} (octal : Octal bytes n) :
    numberField? bytes = some (n : Int) := by
  have ascii := octal.ascii
  have field : numberField? bytes = (asciiChars? (beforeZero bytes)).bind readOctal? := by
    rw [numberField?.eq_def]
    split
    · exact absurd (ascii _ List.mem_cons_self) (by decide)
    · exact absurd (ascii _ List.mem_cons_self) (by decide)
    · rfl
  rw [field]
  cases octal with
  | @intro blanks digits padding blank isOctal padded =>
    have facts : ∀ digit ∈ asciiBytes "01234567", decide (digit ≠ 0) = true ∧
        Char.ofNat digit.toNat ∈ "01234567".toList ∧
        (Char.ofNat digit.toNat).toNat = digit.toNat :=
      List.forall_iff_forall_mem.mp (by decide)
    have fact (digit : UInt8) (mem : digit ∈ digits) := facts digit (isOctal digit mem)
    have cut : beforeZero (blanks ++ (digits ++ padding)) =
        blanks ++ (digits ++ beforeZero padding) := by
      rw [beforeZero, List.takeWhile_append_of_pos fun byte mem => by rw [blank byte mem]; decide,
        List.takeWhile_append_of_pos fun digit mem => (fact digit mem).1, beforeZero]
    have blank_ : ∀ byte ∈ beforeZero padding, byte = 32 := by
      intro byte mem
      have some_ := List.mem_takeWhile_imp mem
      exact (padded byte ((List.takeWhile_sublist _).subset mem)).resolve_left
        (by simpa using some_)
    have all : (blanks ++ (digits ++ beforeZero padding)).all (· < 128) = true := by
      rw [List.all_eq_true, ← cut]
      intro byte mem
      exact decide_eq_true (ascii byte ((List.takeWhile_sublist _).subset mem))
    have blanks_ {bytes : List UInt8} (blank : ∀ byte ∈ bytes, byte = 32) :
        ∀ c ∈ bytes.map fun byte => Char.ofNat byte.toNat, isBlank c = true := by
      intro c mem
      obtain ⟨byte, isMem, rfl⟩ := List.mem_map.mp mem
      rw [blank byte isMem]
      decide
    have digits_ : ∀ c ∈ digits.map fun byte => Char.ofNat byte.toNat,
        c ∈ "01234567".toList := by
      intro c mem
      obtain ⟨digit, isMem, rfl⟩ := List.mem_map.mp mem
      exact (fact digit isMem).2.1
    have value : (digits.map fun byte => Char.ofNat byte.toNat).foldl
        (fun n c => 8 * n + (c.toNat - 48)) 0 = octalValue digits := by
      rw [List.foldl_map, octalValue]
      exact List.foldl_ext _ _ _ fun n digit mem => by rw [(fact digit mem).2.2]
    rw [cut, asciiChars?, if_pos all, Option.bind_some, List.map_append, List.map_append,
      readOctal?_digits (blanks_ blank) (blanks_ blank_) digits_, value]

/-! ## Headers -/

/-- The sum of the bytes of a header where the field of the sum counts as blanks. -/
def headerSum (block : List UInt8) : Nat :=
  ((block.take 148 ++ List.replicate 8 32 ++ block.drop 156).map UInt8.toNat).sum

/-- What the byte for its kind says about a member with a name and a size. A file of the oldest kind
has no slash at the end of its name, and a directory has no data. -/
inductive Marks : (byte : UInt8) → (name : List UInt8) → (size : Nat) → Kind → Prop
  | file {name : List UInt8} {size : Nat} : Marks 48 name size .regular
  | oldFile {name : List UInt8} {size : Nat} (noSlash : name.getLast? ≠ some 47) :
      Marks 0 name size .regular
  | directory {name : List UInt8} : Marks 53 name 0 .directory

/-- A block is a header for a file or a directory. -/
structure Ustar (block name : List UInt8) (size : Nat) (kind : Kind) : Prop where
  length : block.length = blockSize
  named : name ≠ []
  ascii : ∀ byte ∈ name, byte ≠ 0 ∧ byte < 128
  holds : field 0 100 block = name ++ List.replicate (100 - name.length) 0
  noPrefix : (field 345 155 block).head? = some 0
  numbers : ∀ place ∈ numberFields, ∃ n, Octal (field place.1 place.2 block) n
  sized : Octal (field 124 12 block) size
  sum : Octal (field 148 8 block) (headerSum block)
  mark : ∃ byte, block[156]? = some byte ∧ Marks byte name size kind

/-- The name that a member is known by. That of a directory loses its slashes at the end. -/
def knownName (kind : Kind) (name : List UInt8) : List UInt8 :=
  if kind = .directory then withoutLastSlashes name else name

theorem foldl_add_toNat (bytes : List UInt8) (sum : Int) :
    bytes.foldl (fun sum byte => sum + (byte.toNat : Int)) sum =
      sum + ((bytes.map UInt8.toNat).sum : Nat) := by
  induction bytes generalizing sum with
  | nil => simp
  | cons byte bytes ih =>
    rw [List.foldl_cons, ih, List.map_cons, List.sum_cons]
    omega

theorem checkSum_eq (block : List UInt8) :
    checkSum (fun byte => (byte.toNat : Int)) block = headerSum block := by
  have blanks : ((List.replicate 8 (32 : UInt8)).map UInt8.toNat).sum = 256 := rfl
  rw [checkSum, foldl_add_toNat, headerSum]
  simp only [List.map_append, List.sum_append, blanks]
  omega

theorem Marks.headerKind {byte : UInt8} {name : List UInt8} {size : Nat} {kind : Kind}
    (marks : Marks byte name size kind) : headerKind byte name = kind := by
  cases marks with
  | file => rfl
  | oldFile noSlash => rw [Archive.headerKind, if_neg (by simp [noSlash])]; rfl
  | directory => rfl

theorem Marks.cases_kind {byte : UInt8} {name : List UInt8} {size : Nat} {kind : Kind}
    (marks : Marks byte name size kind) : kind = .regular ∨ kind = .directory ∧ size = 0 := by
  cases marks with
  | file => exact .inl rfl
  | oldFile _ => exact .inl rfl
  | directory => exact .inr ⟨rfl, rfl⟩

theorem exists_mapM_eq {α β : Type} {f : α → Option β} {items : List α}
    (each : ∀ item ∈ items, ∃ value, f item = some value) :
    ∃ values, items.mapM f = some values := by
  induction items with
  | nil => exact ⟨[], rfl⟩
  | cons item items ih =>
    obtain ⟨value, first⟩ := each item List.mem_cons_self
    obtain ⟨values, rest⟩ := ih fun item mem => each item (List.mem_cons_of_mem _ mem)
    exact ⟨value :: values, by rw [List.mapM_cons, first, rest]; rfl⟩

section

variable {block name : List UInt8} {size : Nat} {kind : Kind}

theorem Ustar.beforeZero (ustar : Ustar block name size kind) :
    beforeZero (field 0 100 block) = name := by
  rw [ustar.holds, Archive.beforeZero, List.takeWhile_append_of_pos]
  · cases 100 - name.length with
    | zero => simp
    | succ count => simp [List.replicate_succ]
  · exact fun byte mem => by simpa using (ustar.ascii byte mem).1

theorem Ustar.readFields? (ustar : Ustar block name size kind) :
    readFields? block = some { name := knownName kind name, size := size, kind } := by
  have sum : hasRightSum block = true := by
    rw [hasRightSum, numberField?_of_octal ustar.sum]
    simp [checkSum_eq]
  obtain ⟨numbers, read⟩ := exists_mapM_eq (f := fun place : Nat × Nat =>
    numberField? (field place.1 place.2 block)) fun place mem =>
      let ⟨n, octal⟩ := ustar.numbers place mem
      ⟨n, numberField?_of_octal octal⟩
  obtain ⟨byte, found, marks⟩ := ustar.mark
  have noPrefix : (Archive.beforeZero (field 345 155 block)).isEmpty = true := by
    cases bytes : field 345 155 block with
    | nil => rfl
    | cons first rest =>
      have zero := ustar.noPrefix
      rw [bytes] at zero
      cases zero
      rfl
  have named : headerName kind (Archive.beforeZero (field 345 155 block)) name =
      knownName kind name := by
    rw [headerName, noPrefix]
    rfl
  have plain : kind ≠ .sparse := by
    rcases marks.cases_kind with rfl | ⟨rfl, -⟩ <;> decide
  rw [Archive.readFields?, sum, if_neg (by decide), read, numberField?_of_octal ustar.sized,
    ustar.beforeZero, found]
  dsimp only [Option.bind_eq_bind, Option.bind_some, Option.getD_some]
  rw [marks.headerKind, if_neg plain, named]
  rfl

/-- A header is read as what it says. -/
theorem Ustar.ofBlock (ustar : Ustar block name size kind) :
    Header.ofBlock block = .ok { name := knownName kind name, size := size, kind } := by
  have some_ : block ≠ [] := by
    rintro rfl
    cases ustar.length
  have noEnd : block.all (· = 0) = false := by
    obtain ⟨byte, rest, named⟩ := List.exists_cons_of_ne_nil ustar.named
    have mem : byte ∈ block := by
      have first : byte ∈ field 0 100 block := by
        rw [ustar.holds, named]
        simp
      exact (List.drop_sublist 0 block).subset ((List.take_sublist _ _).subset first)
    rw [List.all_eq_false]
    exact ⟨byte, mem, by simpa using (ustar.ascii byte (by simp [named])).1⟩
  rw [Header.ofBlock, if_neg (by simpa using some_), if_neg (by simpa using ustar.length), noEnd,
    if_neg Bool.false_ne_true, ustar.readFields?]

end

end RegistryMend.Archive
