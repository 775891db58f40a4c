/-
This file holds the characters with the Unicode property White_Space, which
separate the words of SQL.
-/

import SqlImage.Text.Range

namespace SqlImage.Text

/-- The code points above ASCII that are white space. -/
def isBlankRanges : List (Nat × Nat) := [
    (0x85, 0x85), (0xA0, 0xA0), (0x1680, 0x1680), (0x2000, 0x200A), (0x2028, 0x2029),
    (0x202F, 0x202F), (0x205F, 0x205F), (0x3000, 0x3000)]

/-- Whether a character is white space. Below 0x80 these are the space and 0x09 to 0x0D. -/
def isBlank (character : Char) : Bool :=
  if character.val < 0x80 then
    character = ' ' || (0x09 ≤ character.val && character.val ≤ 0x0D)
  else inRanges character isBlankRanges

end SqlImage.Text
