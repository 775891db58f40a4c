/-
This file finds the position that a message names. Messages about SQL end in the
place of the offending token, written `Line: 1, Column 8` or `Line: 1, Column: 8`,
and the first such place counts, wherever in the message it stands. A number
that is written in other digits than `0` to `9`, or that is too large for a
signed 32-bit integer, names no position.
-/

import SqlImage.Text.DecimalDigit
import SqlImage.Text.Position

namespace SqlImage.Text.Located

/-- The text after an expected beginning, or nothing when it begins otherwise. -/
def dropPrefix : List Char → List Char → Option (List Char)
  | [], text => some text
  | _ :: _, [] => none
  | expected :: more, character :: rest =>
    if expected = character then dropPrefix more rest else none

/-- The digits of any script at the front of a text, of which there must be one, and the text
after them. -/
def takeDigits (text : List Char) : Option (List Char × List Char) :=
  match text.takeWhile isDecimalDigit with
  | [] => none
  | digits => some (digits, text.dropWhile isDecimalDigit)

/-- The digits of the line and of the column, when a place is written at the very front of the
text. -/
def digitsAtFront (text : List Char) : Option (List Char × List Char) := do
  let rest ← dropPrefix "Line: ".toList text
  let (lineDigits, rest) ← takeDigits rest
  let rest ← dropPrefix ", Column".toList rest
  let rest := (dropPrefix [':'] rest).getD rest
  let rest ← dropPrefix [' '] rest
  let (columnDigits, _) ← takeDigits rest
  return (lineDigits, columnDigits)

/-- The digits of the first place that is written in a text. -/
def firstDigits : List Char → Option (List Char × List Char)
  | [] => none
  | character :: rest =>
    match digitsAtFront (character :: rest) with
    | some digits => some digits
    | none => firstDigits rest

/-- The value of ASCII digits, or nothing when another digit is among them. -/
def digitsValue (digits : List Char) : Option Nat :=
  digits.foldlM (fun value digit =>
    if digit.isDigit then some (value * 10 + (digit.toNat - '0'.toNat)) else none) 0

/-- The value of digits that fits a signed 32-bit integer. -/
def smallValue (digits : List Char) : Option Nat :=
  (digitsValue digits).filter (Int.ofNat · ≤ Int32.maxValue.toInt)

/-- The position named by a message. Only the first place written in it is looked at, so a place
with unusable numbers hides the later ones. -/
def position? (message : List Char) : Option Position := do
  let (lineDigits, columnDigits) ← firstDigits message
  return ⟨← smallValue lineDigits, ← smallValue columnDigits⟩

end SqlImage.Text.Located
