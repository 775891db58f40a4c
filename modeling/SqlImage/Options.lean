/-
This file holds the options of a parse and reads them from JSON. Options are an
object with any of their names, or a list of values in the order of the names;
what is missing keeps its default. Members of other names are passed over, but a
name may not come twice. Every value is an unsigned 64-bit integer.
-/

import SqlImage.Json.Reader
import SqlImage.Number.Shortest
import SqlImage.Text.Quoted

namespace SqlImage

/-- The options of a parse: how deep statements, queries and expressions may lie inside one
another, and two sizes of the stack that no result depends on. -/
structure Options where
  recursionLimit : UInt64
  stackRedZone : UInt64
  stackSize : UInt64
deriving DecidableEq, Repr

namespace Options

/-- The options that hold unless others are given. -/
def default : Options := ⟨50, 32 * 1024, 1024 * 1024⟩

/-- The names of the options, in order. -/
inductive Name where
  | recursionLimit
  | stackRedZone
  | stackSize
deriving DecidableEq, Repr

/-- How a name is written. -/
def Name.text : Name → String
  | .recursionLimit => "recursion_limit"
  | .stackRedZone => "stack_red_zone"
  | .stackSize => "stack_size"

/-- All names, in order. -/
def names : List Name := [.recursionLimit, .stackRedZone, .stackSize]

/-- The same options with another value for one name. -/
def set (options : Options) (name : Name) (value : UInt64) : Options :=
  match name with
  | .recursionLimit => { options with recursionLimit := value }
  | .stackRedZone => { options with stackRedZone := value }
  | .stackSize => { options with stackSize := value }

/-! ### Values of a wrong type -/

open Json

/-- What a number is called in a message. -/
def numberType : Number → String
  | .integer value => "integer `" ++ toString value ++ "`"
  | .real value => "floating point `" ++ value.toText ++ "`"

/-- The fault of a value of a wrong type, with the rest of the message given. The value is read
first, save that lists and objects are not gone into. -/
def wrongType (cursor : Cursor) (expected : String) : Except Fault Fault := do
  let message (found : String) (cursor : Cursor) : Fault :=
    cursor.fault (.other ("invalid type: " ++ found ++ ", expected " ++ expected))
  match cursor.rest with
  | 'n' :: _ => return message "null" (← Cursor.word "ull".toList cursor.skip)
  | 't' :: _ => return message "boolean `true`" (← Cursor.word "rue".toList cursor.skip)
  | 'f' :: _ => return message "boolean `false`" (← Cursor.word "alse".toList cursor.skip)
  | '-' :: _ =>
    let (written, cursor) ← cursor.skip.number true
    return message (numberType written) cursor
  | '"' :: _ =>
    let (text, cursor) ← cursor.skip.string
    return message ("string " ++ Text.quoted text) cursor
  | '[' :: _ => return message "sequence" cursor
  | '{' :: _ => return message "map" cursor
  | character :: _ =>
    if character.isDigit then
      let (written, cursor) ← cursor.number false
      return message (numberType written) cursor
    else return cursor.faultAhead .expectedValue
  | [] => return cursor.faultAhead .endInValue

/-- An unsigned 64-bit integer. -/
def readSize (cursor : Cursor) : Except Fault (UInt64 × Cursor) := do
  let expected := "usize"
  let cursor := cursor.skipBlanks
  let (negative, start) :=
    match cursor.rest with
    | '-' :: _ => (true, cursor.skip)
    | _ => (false, cursor)
  if negative || cursor.rest.head?.any Char.isDigit then
    let (written, cursor) ← start.number negative
    match written with
    | .integer value =>
      if 0 ≤ value then return (UInt64.ofNat value.toNat, cursor)
      throw (cursor.fault (.other
        ("invalid value: integer `" ++ toString value ++ "`, expected " ++ expected)))
    | .real _ =>
      throw (cursor.fault (.other
        ("invalid type: " ++ numberType written ++ ", expected " ++ expected)))
  else throw (← wrongType cursor expected)

/-! ### Members of other names -/

/-- Skips a number whose sign, if any, has been read. -/
def skipNumber (cursor : Cursor) : Except Fault Cursor :=
  match cursor.rest with
  | [] => .error (cursor.fault .invalidNumber)
  | first :: next =>
    if !first.isDigit then .error (cursor.faultAhead .invalidNumber)
    else if first = '0' && next.head?.any Char.isDigit then
      .error (cursor.skip.faultAhead .invalidNumber)
    else
      let cursor := cursor.skipWhile Char.isDigit
      match cursor.rest with
      | '.' :: after =>
        if after.head?.any Char.isDigit then
          let cursor := cursor.skip.skipWhile Char.isDigit
          match cursor.rest with
          | 'e' :: _ | 'E' :: _ => skipExponent cursor
          | _ => .ok cursor
        else .error (cursor.skip.faultAhead .invalidNumber)
      | 'e' :: _ | 'E' :: _ => skipExponent cursor
      | _ => .ok cursor
where
  /-- Skips an exponent, whose letter is next. -/
  skipExponent (cursor : Cursor) : Except Fault Cursor :=
    let cursor := cursor.skip
    let cursor :=
      match cursor.rest with
      | '+' :: _ | '-' :: _ => cursor.skip
      | _ => cursor
    if cursor.rest.head?.any Char.isDigit then .ok (cursor.skipWhile Char.isDigit)
    else .error (cursor.faultAhead .invalidNumber)

/-- Goes past the name of a member of an object and its colon. -/
def skipName (cursor : Cursor) : Except Fault Cursor := do
  let cursor := cursor.skipBlanks
  match cursor.rest with
  | [] => throw (cursor.faultAhead .endInObject)
  | '"' :: _ => (← cursor.skip.skipString).colon
  | _ :: _ => throw (cursor.faultAhead .keyNotText)

/-- What a value is skipped inside of. -/
inductive Frame where
  | list
  | object
deriving DecidableEq, Repr

/-- Whether skipping goes on with a value or has come to an end. -/
inductive Skipped where
  | value (frames : List Frame) (cursor : Cursor)
  | finished (cursor : Cursor)

/-- Goes on after a value, or at the start of a list or an object, to the next value or to the
end. Brackets that close are passed as long as there are any. -/
def skipAhead : (fuel : Nat) → (opened : Bool) → List Frame → Cursor → Except Fault Skipped
  | _, _, [], cursor => .ok (.finished cursor)
  | 0, _, _, cursor => .ok (.finished cursor)
  | fuel + 1, opened, frame :: outer, cursor =>
    let cursor := cursor.skipBlanks
    let next (cursor : Cursor) : Except Fault Skipped :=
      match frame with
      | .list => .ok (.value (frame :: outer) cursor)
      | .object => (skipName cursor).map (.value (frame :: outer) ·)
    match cursor.rest with
    | [] =>
      .error (cursor.faultAhead (match frame with
        | .list => .endInList
        | .object => .endInObject))
    | character :: _ =>
      if character = ',' ∧ ¬ opened then next cursor.skip
      else if (character = ']' ∧ frame = .list) ∨ (character = '}' ∧ frame = .object) then
        skipAhead fuel false outer cursor.skip
      else if opened then next cursor
      else
        .error (cursor.faultAhead (match frame with
          | .list => .expectedListCommaOrEnd
          | .object => .expectedObjectCommaOrEnd))

/-- Skips a value that lies inside of lists and objects, and with it the rest of them. -/
def skipValue : (fuel : Nat) → List Frame → Cursor → Except Fault Cursor
  | 0, _, cursor => .ok cursor
  | fuel + 1, frames, cursor => do
    let cursor := cursor.skipBlanks
    let (opened, frames, cursor) ← match cursor.rest with
      | [] => throw (cursor.faultAhead .endInValue)
      | 'n' :: _ => pure (false, frames, ← Cursor.word "ull".toList cursor.skip)
      | 't' :: _ => pure (false, frames, ← Cursor.word "rue".toList cursor.skip)
      | 'f' :: _ => pure (false, frames, ← Cursor.word "alse".toList cursor.skip)
      | '-' :: _ => pure (false, frames, ← skipNumber cursor.skip)
      | '"' :: _ => pure (false, frames, ← cursor.skip.skipString)
      | '[' :: _ => pure (true, .list :: frames, cursor.skip)
      | '{' :: _ => pure (true, .object :: frames, cursor.skip)
      | character :: _ =>
        if character.isDigit then pure (false, frames, ← skipNumber cursor)
        else throw (cursor.faultAhead .expectedValue)
    match ← skipAhead (cursor.size + 1) opened frames cursor with
    | .finished cursor => return cursor
    | .value frames cursor => skipValue fuel frames cursor

/-! ### Options -/

/-- The values of a list, for the names in order. -/
def readList : List Name → (first : Bool) → Options → Cursor → Except Fault (Options × Cursor)
  | [], _, options, cursor => do
    let cursor := cursor.skipBlanks
    match cursor.rest with
    | ']' :: _ => return (options, cursor.skip)
    | ',' :: _ =>
      let cursor := cursor.skip.skipBlanks
      throw (cursor.faultAhead
        (if cursor.rest.head? = some ']' then .trailingComma else .trailingCharacters))
    | _ :: _ => throw (cursor.faultAhead .trailingCharacters)
    | [] => throw (cursor.faultAhead .endInList)
  | name :: names, first, options, cursor => do
    let (more, cursor) ← cursor.nextElement first
    if more then
      let (value, cursor) ← readSize cursor
      readList names false (options.set name value) cursor
    else return (options, cursor)

/-- The fault of a name that comes twice. It is told where the object would be closed. -/
def duplicate (name : Name) (cursor : Cursor) : Fault :=
  let cursor := cursor.skipBlanks
  let cursor := if cursor.rest.head? = some '}' then cursor.skip else cursor
  cursor.fault (.other ("duplicate field `" ++ name.text ++ "`"))

/-- The members of an object from here to its closing bracket; `seen` are the names that have
come. -/
def readMembers : (fuel : Nat) → (first : Bool) → (seen : List Name) → Options → Cursor →
    Except Fault (Options × Cursor)
  | 0, _, _, _, cursor => .error (cursor.fault .endInObject)
  | fuel + 1, first, seen, options, cursor => do
    let (more, cursor) ← cursor.nextName first
    if !more then return (options, cursor.skip)
    let (text, cursor) ← cursor.string
    match names.find? (·.text = text) with
    | some name =>
      if name ∈ seen then throw (duplicate name cursor)
      let (value, cursor) ← readSize (← cursor.colon)
      readMembers fuel false (name :: seen) (options.set name value) cursor
    | none =>
      let cursor ← cursor.colon
      readMembers fuel false seen options (← skipValue (cursor.size + 1) [] cursor)

/-- The options that a JSON text holds, or the first fault. -/
def ofJson (text : String) : Except Fault Options := do
  let cursor := (Cursor.ofText text).skipBlanks
  let (options, cursor) ← match cursor.rest with
    | [] => throw (cursor.faultAhead .endInValue)
    | '[' :: _ => readList names true default cursor.skip
    | '{' :: _ => readMembers (cursor.size + 1) true [] default cursor.skip
    | _ :: _ => throw (← wrongType cursor "struct ParseOptions")
  cursor.finish
  return options

end Options

end SqlImage
