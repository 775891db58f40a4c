/-
This file writes a JSON value in two layouts: on one line without any blanks, and
in the pretty form, where every element and every member has a line of its own,
indented by two blanks a level. Inside a string only quotes, backslashes and
controls are escaped, the common controls by a letter.
-/

import SqlImage.Json.Value
import SqlImage.Number.Shortest

namespace SqlImage.Json

/-! ### Strings and numbers -/

/-- Two lower-case hexadecimal digits. -/
def twoHexDigits (number : Nat) : String :=
  String.ofList [(number / 16).digitChar, (number % 16).digitChar]

/-- One character as it stands in a string. -/
def escaped (character : Char) : String :=
  if character = '"' then "\\\""
  else if character = '\\' then "\\\\"
  else if character = '\n' then "\\n"
  else if character = '\r' then "\\r"
  else if character = '\t' then "\\t"
  else if character.toNat = 0x08 then "\\b"
  else if character.toNat = 0x0C then "\\f"
  else if character.toNat < 0x20 then "\\u00" ++ twoHexDigits character.toNat
  else character.toString

/-- A string between its quotes. -/
def quotedText (text : String) : String :=
  "\"" ++ String.join (text.toList.map escaped) ++ "\""

/-- The text of a number. What is not finite has none. -/
def Number.toText : Number → String
  | .integer value => toString value
  | .real value => if value.isFinite then value.toText else "null"

/-- The value of a floating-point number. What is not finite has no number in JSON. -/
def Value.ofDouble (number : Double) : Value :=
  if number.isFinite then .number (.real number) else .null

/-- An integer as a value. -/
def Value.ofInt (value : Int) : Value := .number (.integer value)

/-! ### Layouts -/

mutual

/-- A value on one line. -/
def Value.toLine : Value → String
  | .null => "null"
  | .boolean value => if value then "true" else "false"
  | .number value => value.toText
  | .text value => quotedText value
  | .list elements => "[" ++ elementsToLine true elements ++ "]"
  | .object members => "\x7b" ++ membersToLine true members ++ "\x7d"

/-- Elements on one line, with commas before all but the first. -/
def elementsToLine (first : Bool) : List Value → String
  | [] => ""
  | head :: tail => (if first then "" else ",") ++ head.toLine ++ elementsToLine false tail

/-- Members on one line, with commas before all but the first. -/
def membersToLine (first : Bool) : List (String × Value) → String
  | [] => ""
  | (name, head) :: tail =>
    (if first then "" else ",") ++ quotedText name ++ ":" ++ head.toLine ++
      membersToLine false tail

end

/-- A new line indented to a level. -/
def indented (level : Nat) : String := "\n" ++ String.ofList (List.replicate (2 * level) ' ')

mutual

/-- A value in the pretty form, the lines after its first one indented to a level. -/
def Value.toPretty (level : Nat) : Value → String
  | .null => "null"
  | .boolean value => if value then "true" else "false"
  | .number value => value.toText
  | .text value => quotedText value
  | .list [] => "[]"
  | .list (head :: tail) =>
    "[" ++ indented (level + 1) ++ head.toPretty (level + 1) ++
      elementsToPretty (level + 1) tail ++ indented level ++ "]"
  | .object [] => "\x7b\x7d"
  | .object ((name, head) :: tail) =>
    "\x7b" ++ indented (level + 1) ++ quotedText name ++ ": " ++ head.toPretty (level + 1) ++
      membersToPretty (level + 1) tail ++ indented level ++ "\x7d"

/-- The elements after the first one, each after a comma and on its own line. -/
def elementsToPretty (level : Nat) : List Value → String
  | [] => ""
  | head :: tail => "," ++ indented level ++ head.toPretty level ++ elementsToPretty level tail

/-- The members after the first one, each after a comma and on its own line. -/
def membersToPretty (level : Nat) : List (String × Value) → String
  | [] => ""
  | (name, head) :: tail =>
    "," ++ indented level ++ quotedText name ++ ": " ++ head.toPretty level ++
      membersToPretty level tail

end

end SqlImage.Json
