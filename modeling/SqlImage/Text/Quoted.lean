/-
This file writes a text between double quotes so that every character can be
told: quotes and backslashes are escaped, the common controls have a letter, and
whatever does not print by itself is shown by its code point.
-/

import SqlImage.Text.Unprintable

namespace SqlImage.Text

/-- The hexadecimal digits of a number, in lower case and without leading zeros. -/
def hexDigits (number : Nat) : String :=
  String.ofList (Nat.toDigits 16 number)

/-- One character as it stands between double quotes. -/
def quotedCharacter (character : Char) : String :=
  if character = '\t' then "\\t"
  else if character = '\r' then "\\r"
  else if character = '\n' then "\\n"
  else if character = '"' then "\\\""
  else if character = '\\' then "\\\\"
  else if character.toNat = 0 then "\\0"
  else if isUnprintable character then "\\u\x7b" ++ hexDigits character.toNat ++ "\x7d"
  else character.toString

/-- A text between double quotes. -/
def quoted (text : String) : String :=
  "\"" ++ String.join (text.toList.map quotedCharacter) ++ "\""

end SqlImage.Text
