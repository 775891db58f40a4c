/-
This file says how places in a text are counted. A position is a line and a
column, both from one, and only a newline starts a line. The position after a
text can be reached by reading the text character by character, or counted from
the newlines of the whole text, and an index of the line starts leads back from
a position to the number of characters before it.
-/

namespace SqlImage

/-! ### Positions -/

/-- A place in a text: the line and the column of the next character, both counted from one. -/
structure Position where
  line : Nat
  column : Nat
deriving DecidableEq, Repr

namespace Position

/-- The place of the first character of a text. -/
def start : Position := ⟨1, 1⟩

/-- The place after one more character. Only a newline starts a line, so a carriage return is
one column like any other character. -/
def advance (position : Position) (character : Char) : Position :=
  if character = '\n' then ⟨position.line + 1, 1⟩ else ⟨position.line, position.column + 1⟩

/-- The place reached by reading a text from its start, one character at a time. -/
def after (text : List Char) : Position := text.foldl advance start

/-- The characters after the last newline of a text. -/
def lastLine (text : List Char) : List Char :=
  (text.reverse.takeWhile (· ≠ '\n')).reverse

/-- The place just past the end of a text, counted from its newlines and its last line. -/
def endOf (text : List Char) : Position :=
  ⟨text.count '\n' + 1, (lastLine text).length + 1⟩

end Position

/-! ### From a position back to an offset -/

/-- The offsets at which the lines of a text start, and the number of its characters. -/
structure LineIndex where
  starts : Array Nat
  total : Nat

namespace LineIndex

/-- The index of the characters read so far, extended by one more. -/
def extend (index : LineIndex) (character : Char) : LineIndex :=
  if character = '\n' then
    { starts := index.starts.push (index.total + 1), total := index.total + 1 }
  else { index with total := index.total + 1 }

/-- The line starts of a text. The first line starts at zero. -/
def ofText (text : List Char) : LineIndex :=
  text.foldl extend { starts := #[0], total := 0 }

/-- The number of characters before a position. A position past its line or past the text
counts as the end of the text at most. -/
def offset (index : LineIndex) (position : Position) : Nat :=
  match index.starts[position.line - 1]? with
  | some lineStart => min (lineStart + (position.column - 1)) index.total
  | none => index.total

end LineIndex

end SqlImage
