/-
This file shows what an image says as a JSON value: a record is an object with
the names of its fields, from which pointers that lead nowhere, zeros and false
flags are left out, save for the few that tell what a record is. Tags are shown
by their numbers and a floating-point number by its bits.
-/

import SqlImage.Image.Content
import SqlImage.Json.Printer
import SqlImage.Text.Quoted

namespace SqlImage.Image

open SqlImage.Json (Value)

/-- The fields that are shown even when they are zero. -/
def shownAlways : List String := ["isValid", "type", "setType"]

/-- The bits of a floating-point number as sixteen hexadecimal digits. -/
def bitsText (number : Double) : String :=
  let digits := Text.hexDigits number.bits.toNat
  "0x" ++ String.ofList (List.replicate (16 - digits.length) '0') ++ digits

/-- The members of the fields that are not left out. -/
def shownMembers : List String → List (Option Value × Value) → List (String × Value)
  | name :: names, (shown, always) :: rest =>
    match shown with
    | some value => (name, value) :: shownMembers names rest
    | none =>
      if name ∈ shownAlways then (name, always) :: shownMembers names rest
      else shownMembers names rest
  | _, _ => []

mutual

/-- The value that shows a content, unless it is a zero, and the value that shows it even
then. -/
def Content.shown : Content → Option Value × Value
  | .tag ordinal => number ordinal.toNat
  | .flag value => (if value then some (.boolean true) else none, .boolean value)
  | .place value => number value.toInt
  | .int value => number value.toInt
  | .size value => number value.toNat
  | .double value =>
    (if value.bits = 0 then none else some (.text (bitsText value)), .text (bitsText value))
  | .absent => (none, .null)
  | .text value => (some (.text value), .text value)
  | .record kind fields =>
    let value := Value.object (shownMembers (kind.fields.map Field.name) (contentsShown fields))
    (some value, value)
  | .noList => (none, .null)
  | .list elements =>
    let value := Value.list ((contentsShown elements).map (·.2))
    (some value, value)
where
  /-- A number, which is a zero or not. -/
  number (value : Int) : Option Value × Value :=
    (if value = 0 then none else some (.ofInt value), .ofInt value)

/-- The values that show several contents. -/
def contentsShown : List Content → List (Option Value × Value)
  | [] => []
  | head :: tail => head.shown :: contentsShown tail

end

/-- The value that shows a content. -/
def Content.dump (content : Content) : Value := content.shown.2

end SqlImage.Image
