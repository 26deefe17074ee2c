/-! # Blank characters, trimming and words

The blank characters are those of the Unicode white space property together with the four
separators U+001C to U+001F. Trimming removes them from both ends of a text; the words of a text
are its longest runs without them.
-/

namespace RegistryMend.Text

/-- Whether a character counts as white space. -/
def isBlank (c : Char) : Bool :=
  let n := c.toNat
  (0x09 ≤ n && n ≤ 0x0d) || (0x1c ≤ n && n ≤ 0x20) || n == 0x85 || n == 0xa0 || n == 0x1680 ||
    (0x2000 ≤ n && n ≤ 0x200a) || n == 0x2028 || n == 0x2029 || n == 0x202f || n == 0x205f ||
    n == 0x3000

/-- Removes the entries with a property from both ends of a list. -/
def trimBy {α : Type} (drop : α → Bool) (cs : List α) : List α :=
  ((cs.dropWhile drop).reverse.dropWhile drop).reverse

/-- Removes blanks from both ends. -/
def trimBlanks (cs : List Char) : List Char :=
  trimBy isBlank cs

/-- Removes blanks from both ends of a text. -/
def trim (s : String) : String :=
  String.ofList (trimBlanks s.toList)

/-- Collects words from the right: the word being built and the words after it. -/
private def wordStep (c : Char) : List Char × List (List Char) → List Char × List (List Char)
  | (word, later) =>
    if isBlank c then ([], if word.isEmpty then later else word :: later) else (c :: word, later)

/-- The longest runs of characters that are not blank, in order. -/
def words (cs : List Char) : List (List Char) :=
  let (word, later) := cs.foldr wordStep ([], [])
  if word.isEmpty then later else word :: later

/-- Whether a text holds nothing but blanks. -/
def allBlank (s : String) : Bool :=
  s.toList.all isBlank

/-- From the right, what has been collected is the word that is open and the words behind it. -/
private theorem foldr_wordStep (cs : List Char) :
    cs.foldr wordStep ([], []) =
      (cs.takeWhile fun c => !isBlank c, words (cs.dropWhile fun c => !isBlank c)) := by
  induction cs with
  | nil => rfl
  | cons c cs ih =>
    cases blank : isBlank c with
    | true => simp [wordStep, words, blank]
    | false =>
      rw [List.foldr_cons, ih]
      simp [wordStep, blank]

@[simp] theorem words_nil : words [] = [] := rfl

/-- Blanks before the words do not matter. -/
theorem words_cons_blank {c : Char} (blank : isBlank c = true) (cs : List Char) :
    words (c :: cs) = words cs := by
  simp [words, wordStep, blank]

/-- The first word ends before the first blank. -/
theorem words_cons {c : Char} (solid : isBlank c = false) (cs : List Char) :
    words (c :: cs) =
      (c :: cs.takeWhile fun c => !isBlank c) :: words (cs.dropWhile fun c => !isBlank c) := by
  have collected := foldr_wordStep (c :: cs)
  simp only [solid, List.takeWhile_cons, List.dropWhile_cons, Bool.not_false, if_true] at collected
  rw [words, collected]
  rfl

@[simp] theorem trimBy_nil {α : Type} (drop : α → Bool) : trimBy drop [] = [] := rfl

@[simp] theorem trimBlanks_nil : trimBlanks [] = [] := rfl

example : trim " \t a b\n" = "a b" := by decide
example : (words " a  bc ".toList).map String.ofList = ["a", "bc"] := by decide

end RegistryMend.Text
