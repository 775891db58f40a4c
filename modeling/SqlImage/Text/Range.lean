/-
This file holds the lookup that the tables of character classes share. A class
is given by ranges of code points, both ends included.
-/

namespace SqlImage.Text

/-- Whether a character lies in one of the ranges. -/
def inRanges (character : Char) (ranges : List (Nat × Nat)) : Bool :=
  ranges.any fun range => range.1 ≤ character.toNat && character.toNat ≤ range.2

end SqlImage.Text
