/-
This file cuts a stretch of characters out of a text. A stretch is given by the
number of characters before it and by its length, while the text is cut at byte
offsets, so the stretch is first turned into two byte offsets. Cutting fails
where an offset is not a character boundary, and the offsets computed here
always are.
-/

namespace SqlImage.Text

/-- The number of bytes that the characters take in UTF-8. -/
def byteSize (text : List Char) : Nat :=
  text.foldr (fun character size => character.utf8Size + size) 0

/-- The byte offsets at which the characters start, the first of them at `offset`, and after
them the offset of the end. -/
def boundaries : List Char → Nat → List Nat
  | [], offset => [offset]
  | character :: rest, offset => offset :: boundaries rest (offset + character.utf8Size)

/-- The characters from byte offset `offset` on, or nothing when the offset lies inside a
character or past the end. -/
def dropBytes : Nat → List Char → Option (List Char)
  | offset, [] => if offset = 0 then some [] else none
  | offset, character :: rest =>
    if offset = 0 then some (character :: rest)
    else if character.utf8Size ≤ offset then dropBytes (offset - character.utf8Size) rest
    else none

/-- The characters that fill exactly the first `size` bytes, or nothing when the last byte ends
inside a character or past the end. -/
def takeBytes : Nat → List Char → Option (List Char)
  | size, [] => if size = 0 then some [] else none
  | size, character :: rest =>
    if size = 0 then some []
    else if character.utf8Size ≤ size then
      (takeBytes (size - character.utf8Size) rest).map (character :: ·)
    else none

/-- The text between two byte offsets. Nothing is cut when the offsets are out of order or one
of them is not a character boundary. -/
def cutBytes (text : List Char) (first last : Nat) : Option (List Char) :=
  if first ≤ last then (dropBytes first text).bind (takeBytes (last - first)) else none

/-- The byte offsets of the stretch that starts after `start` characters and holds `length` of
them. The end is looked up among the boundaries after the first one, and a stretch that runs
past the text ends with the text. -/
def byteBounds (text : List Char) (start length : Nat) : Nat × Nat :=
  let offsets := boundaries text 0
  let first := (offsets[start]?).getD (byteSize text)
  if length = 0 then (first, first)
  else (first, ((offsets.drop (start + 1))[length - 1]?).getD (byteSize text))

/-- The stretch of a text that starts after `start` characters and holds at most `length` of
them. -/
def slice (text : List Char) (start length : Nat) : Option (List Char) :=
  let bounds := byteBounds text start length
  cutBytes text bounds.1 bounds.2

end SqlImage.Text
