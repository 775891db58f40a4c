/-
This file holds the place that a lexer has reached in a text: what is left of the
text, and the position of its first character. The only move is past the next
character, so the position is always that of the characters read.
-/

import SqlImage.Text.Position

namespace SqlImage.Sql

/-- The rest of a text and the position where it begins. -/
structure Cursor where
  rest : List Char
  position : Position
deriving DecidableEq, Repr

namespace Cursor

/-- The cursor before a whole text. -/
def start (text : List Char) : Cursor := ⟨text, .start⟩

/-- The cursor past the next character, if there is one. -/
def skip (cursor : Cursor) : Cursor :=
  match cursor.rest with
  | [] => cursor
  | character :: rest => ⟨rest, cursor.position.advance character⟩

/-- The cursor past so many characters, or past all if there are fewer. -/
def skipMany : Nat → Cursor → Cursor
  | 0, cursor => cursor
  | count + 1, cursor => skipMany count cursor.skip

/-- The next character. -/
def next? (cursor : Cursor) : Option Char := cursor.rest.head?

/-- Whether the next character is the given one. -/
def at? (cursor : Cursor) (character : Char) : Bool := cursor.rest.head? = some character

/-- The characters at the front of `rest` that satisfy a test, and the cursor past them. The
position is that of `rest`. -/
def spanFrom (test : Char → Bool) : (rest : List Char) → Position → List Char × Cursor
  | [], position => ([], ⟨[], position⟩)
  | character :: rest, position =>
    if test character then
      let (taken, cursor) := spanFrom test rest (position.advance character)
      (character :: taken, cursor)
    else ([], ⟨character :: rest, position⟩)

/-- The characters at the front that satisfy a test, and the cursor past them. -/
def span (test : Char → Bool) (cursor : Cursor) : List Char × Cursor :=
  spanFrom test cursor.rest cursor.position

end Cursor

end SqlImage.Sql
