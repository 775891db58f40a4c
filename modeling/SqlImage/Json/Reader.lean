/-
This file reads a JSON text as a value. Exactly one value may stand in the text,
with white space around it.
-/

import SqlImage.Json.Numeral

namespace SqlImage.Json

namespace Cursor

/-- The colon after the name of a member. -/
def colon (cursor : Cursor) : Except Fault Cursor :=
  let cursor := cursor.skipBlanks
  match cursor.rest with
  | ':' :: _ => .ok cursor.skip
  | [] => .error (cursor.faultAhead .endInObject)
  | _ :: _ => .error (cursor.faultAhead .expectedColon)

/-- Goes to the next element of a list, or past the closing bracket, in which case there is
none. -/
def nextElement (cursor : Cursor) (first : Bool) : Except Fault (Bool × Cursor) :=
  let cursor := cursor.skipBlanks
  match cursor.rest with
  | [] => .error (cursor.faultAhead .endInList)
  | ']' :: _ => .ok (false, cursor.skip)
  | character :: _ =>
    if first then .ok (true, cursor)
    else if character = ',' then
      let cursor := cursor.skip.skipBlanks
      match cursor.rest with
      | [] => .error (cursor.faultAhead .endInValue)
      | ']' :: _ => .error (cursor.faultAhead .trailingComma)
      | _ :: _ => .ok (true, cursor)
    else .error (cursor.faultAhead .expectedListCommaOrEnd)

/-- Goes past the opening quote of the next name of an object, or to the closing bracket, in
which case there is none. -/
def nextName (cursor : Cursor) (first : Bool) : Except Fault (Bool × Cursor) :=
  let cursor := cursor.skipBlanks
  match cursor.rest with
  | [] => .error (cursor.faultAhead .endInObject)
  | '}' :: _ => .ok (false, cursor)
  | character :: _ =>
    if first then atName cursor
    else if character = ',' then atName cursor.skip.skipBlanks
    else .error (cursor.faultAhead .expectedObjectCommaOrEnd)
where
  /-- A name has to stand here. -/
  atName (cursor : Cursor) : Except Fault (Bool × Cursor) :=
    match cursor.rest with
    | [] => .error (cursor.faultAhead .endInValue)
    | '"' :: _ => .ok (true, cursor.skip)
    | '}' :: _ => .error (cursor.faultAhead .trailingComma)
    | _ :: _ => .error (cursor.faultAhead .keyNotText)

/-- Nothing but white space may be left. -/
def finish (cursor : Cursor) : Except Fault Unit :=
  let cursor := cursor.skipBlanks
  if cursor.rest.isEmpty then .ok () else .error (cursor.faultAhead .trailingCharacters)

mutual

/-- The next value. Every call below it reads a character first, or is the only one to read the
same character, so twice the size of the text is fuel enough. -/
def value : (fuel : Nat) → Cursor → Except Fault (Value × Cursor)
  | 0, cursor => .error (cursor.fault .endInValue)
  | fuel + 1, cursor =>
    let cursor := cursor.skipBlanks
    match cursor.rest with
    | [] => .error (cursor.faultAhead .endInValue)
    | 'n' :: _ => (word "ull".toList cursor.skip).map (Value.null, ·)
    | 't' :: _ => (word "rue".toList cursor.skip).map (Value.boolean true, ·)
    | 'f' :: _ => (word "alse".toList cursor.skip).map (Value.boolean false, ·)
    | '-' :: _ => (number cursor.skip true).map fun (written, cursor) => (.number written, cursor)
    | '"' :: _ => (string cursor.skip).map fun (written, cursor) => (.text written, cursor)
    | '[' :: _ =>
      (elements fuel true cursor.skip).map fun (values, cursor) => (.list values, cursor)
    | '{' :: _ =>
      (members fuel true cursor.skip).map fun (values, cursor) => (.object values, cursor)
    | character :: _ =>
      if character.isDigit then
        (number cursor false).map fun (written, cursor) => (.number written, cursor)
      else .error (cursor.faultAhead .expectedValue)

/-- The elements of a list from here to its closing bracket. -/
def elements : (fuel : Nat) → (first : Bool) → Cursor → Except Fault (List Value × Cursor)
  | 0, _, cursor => .error (cursor.fault .endInList)
  | fuel + 1, first, cursor =>
    match nextElement cursor first with
    | .error fault => .error fault
    | .ok (false, cursor) => .ok ([], cursor)
    | .ok (true, cursor) =>
      match value fuel cursor with
      | .error fault => .error fault
      | .ok (head, cursor) =>
        match elements fuel false cursor with
        | .error fault => .error fault
        | .ok (tail, cursor) => .ok (head :: tail, cursor)

/-- The members of an object from here to its closing bracket. -/
def members : (fuel : Nat) → (first : Bool) → Cursor →
    Except Fault (List (String × Value) × Cursor)
  | 0, _, cursor => .error (cursor.fault .endInObject)
  | fuel + 1, first, cursor =>
    match nextName cursor first with
    | .error fault => .error fault
    | .ok (false, cursor) => .ok ([], cursor.skip)
    | .ok (true, cursor) =>
      match string cursor with
      | .error fault => .error fault
      | .ok (name, cursor) =>
        match colon cursor with
        | .error fault => .error fault
        | .ok cursor =>
          match value fuel cursor with
          | .error fault => .error fault
          | .ok (head, cursor) =>
            match members fuel false cursor with
            | .error fault => .error fault
            | .ok (tail, cursor) => .ok ((name, head) :: tail, cursor)

end

end Cursor

/-- The value that a text holds, or the first fault. -/
def Value.ofText (text : String) : Except Fault Value := do
  let cursor := Cursor.ofText text
  let (read, cursor) ← cursor.value (2 * cursor.size + 2)
  cursor.finish
  return read

end SqlImage.Json
