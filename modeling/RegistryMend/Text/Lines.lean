/-! # Lines of a text

A text file is read with one kind of line end: a carriage return, alone or before a line feed,
becomes a line feed. A text is then cut into lines at every line boundary of Unicode and at the
separators U+001C to U+001E; a boundary at the very end opens no further line.
-/

namespace RegistryMend.Text

/-- Replaces every carriage return, and the line feed that follows it, by one line feed. -/
def unifyLineEnds : List Char → List Char
  | '\r' :: '\n' :: rest => '\n' :: unifyLineEnds rest
  | '\r' :: rest => '\n' :: unifyLineEnds rest
  | c :: rest => c :: unifyLineEnds rest
  | [] => []

/-- Whether a character ends a line. A carriage return directly before a line feed ends the line
together with it. -/
def isLineBoundary (c : Char) : Bool :=
  let n := c.toNat
  (0x0a ≤ n && n ≤ 0x0d) || (0x1c ≤ n && n ≤ 0x1e) || n == 0x85 || n == 0x2028 || n == 0x2029

/-- Cuts a text into lines. The accumulator holds the characters of the open line, last first. -/
def linesFrom : List Char → List Char → List (List Char)
  | [], [] => []
  | line, [] => [line.reverse]
  | line, '\r' :: '\n' :: rest => line.reverse :: linesFrom [] rest
  | line, c :: rest =>
    if isLineBoundary c then line.reverse :: linesFrom [] rest else linesFrom (c :: line) rest

/-- The lines of a text, without the characters that end them. -/
def lines (cs : List Char) : List (List Char) :=
  linesFrom [] cs

@[simp] theorem lines_nil : lines [] = [] := rfl

example : lines "a\r\nb\n\nc".toList = ["a".toList, "b".toList, [], "c".toList] := by decide
example : lines "a\n".toList = ["a".toList] := by decide

end RegistryMend.Text
