/-
This file reads the small parts of JSON: blanks, fixed words, strings. A cursor
knows the line it stands on and how many bytes of that line have been read,
because faults are told by line and byte. A fault is either at the bytes read so
far or one byte further, which may be inside of an unexpected character.
-/

import SqlImage.Json.Value

namespace SqlImage.Json

/-! ### Faults -/

/-- What can be wrong with a JSON text. -/
inductive Cause where
  | endInList
  | endInObject
  | endInString
  | endInValue
  | expectedColon
  | expectedListCommaOrEnd
  | expectedObjectCommaOrEnd
  | expectedIdentifier
  | expectedValue
  | invalidEscape
  | invalidNumber
  | numberOutOfRange
  | keyNotText
  | controlCharacter
  | loneSurrogate
  | trailingComma
  | trailingCharacters
  | endOfEscape
  | other (message : String)
deriving DecidableEq, Repr

/-- The words for a cause. -/
def Cause.message : Cause → String
  | .endInList => "EOF while parsing a list"
  | .endInObject => "EOF while parsing an object"
  | .endInString => "EOF while parsing a string"
  | .endInValue => "EOF while parsing a value"
  | .expectedColon => "expected `:`"
  | .expectedListCommaOrEnd => "expected `,` or `]`"
  | .expectedObjectCommaOrEnd => "expected `,` or `\x7d`"
  | .expectedIdentifier => "expected ident"
  | .expectedValue => "expected value"
  | .invalidEscape => "invalid escape"
  | .invalidNumber => "invalid number"
  | .numberOutOfRange => "number out of range"
  | .keyNotText => "key must be a string"
  | .controlCharacter => "control character (\\u0000-\\u001F) found while parsing a string"
  | .loneSurrogate => "lone leading surrogate in hex escape"
  | .trailingComma => "trailing comma"
  | .trailingCharacters => "trailing characters"
  | .endOfEscape => "unexpected end of hex escape"
  | .other message => message

/-- A fault of a JSON text: its cause, its line, and the bytes of that line read when it was
found. -/
structure Fault where
  cause : Cause
  line : Nat
  column : Nat
deriving DecidableEq, Repr

/-- The words for a fault. -/
def Fault.message (fault : Fault) : String :=
  fault.cause.message ++ " at line " ++ toString fault.line ++ " column " ++
    toString fault.column

/-! ### The cursor -/

/-- The rest of a text, with the line and the bytes of the line read before it. The number of
characters of the whole text bounds every loop along it. -/
structure Cursor where
  rest : List Char
  line : Nat
  column : Nat
  size : Nat

namespace Cursor

/-- The cursor at the start of a text. -/
def ofText (text : String) : Cursor := ⟨text.toList, 1, 0, text.length⟩

/-- The cursor past one character, of which the text after it is given. -/
def past (cursor : Cursor) (character : Char) (rest : List Char) : Cursor :=
  if character = '\n' then { cursor with rest, line := cursor.line + 1, column := 0 }
  else { cursor with rest, column := cursor.column + character.utf8Size }

/-- The cursor past the next character, if there is one. -/
def skip (cursor : Cursor) : Cursor :=
  match cursor.rest with
  | [] => cursor
  | character :: rest => cursor.past character rest

/-- A fault at the bytes read so far. -/
def fault (cursor : Cursor) (cause : Cause) : Fault := ⟨cause, cursor.line, cursor.column⟩

/-- A fault at the next byte, or at the end of the text. -/
def faultAhead (cursor : Cursor) (cause : Cause) : Fault :=
  match cursor.rest with
  | [] => cursor.fault cause
  | character :: _ =>
    if character = '\n' then ⟨cause, cursor.line + 1, 0⟩
    else ⟨cause, cursor.line, cursor.column + 1⟩

/-- The cursor past the characters at its front that satisfy a test. -/
def skipWhile (test : Char → Bool) (cursor : Cursor) : Cursor :=
  go cursor.rest cursor
where
  /-- Goes on along the rest of the text. -/
  go : List Char → Cursor → Cursor
    | [], cursor => cursor
    | character :: rest, cursor =>
      if test character then go rest (cursor.past character rest) else cursor

/-- Whether a character is white space of JSON. -/
def isBlank (character : Char) : Bool :=
  character = ' ' || character = '\n' || character = '\t' || character = '\r'

/-- The cursor past white space. -/
def skipBlanks (cursor : Cursor) : Cursor := cursor.skipWhile isBlank

/-- Reads the given word, the first letter of which has been read. -/
def word : List Char → Cursor → Except Fault Cursor
  | [], cursor => .ok cursor
  | expected :: more, cursor =>
    match cursor.rest with
    | [] => .error (cursor.fault .endInValue)
    | character :: rest =>
      if character = expected then word more (cursor.past character rest)
      else .error (cursor.faultAhead .expectedIdentifier)

/-! ### Strings -/

/-- The value of a hexadecimal digit. -/
def hexValue (digit : Char) : Option Nat :=
  if digit.isDigit then some (digit.toNat - '0'.toNat)
  else if 'a' ≤ digit && digit ≤ 'f' then some (digit.toNat - 'a'.toNat + 10)
  else if 'A' ≤ digit && digit ≤ 'F' then some (digit.toNat - 'A'.toNat + 10)
  else none

/-- The cursor past some bytes, which may end inside a character. -/
def skipBytes : (count : Nat) → List Char → Cursor → Cursor
  | _, [], cursor => cursor
  | count, character :: rest, cursor =>
    if count = 0 then cursor
    else if character.utf8Size ≤ count then
      skipBytes (count - character.utf8Size) rest (cursor.past character rest)
    else { cursor with column := cursor.column + count }

/-- Whether a text has so many bytes. -/
def hasBytes : (count : Nat) → List Char → Bool
  | 0, _ => true
  | _ + 1, [] => false
  | count + 1, character :: rest => hasBytes (count + 1 - character.utf8Size) rest

/-- The four hexadecimal digits of an escape. Fewer than four bytes are the end of the text. -/
def fourDigits (cursor : Cursor) : Except Fault (Nat × Cursor) :=
  if !hasBytes 4 cursor.rest then
    .error ((cursor.skipWhile fun _ => true).fault .endInString)
  else
    let after := skipBytes 4 cursor.rest cursor
    match (cursor.rest.take 4).mapM hexValue with
    | some values => .ok (values.foldl (fun value digit => value * 16 + digit) 0, after)
    | none => .error (after.fault .invalidEscape)

/-- The character of an escape by number, after its letter. A code unit of the upper half of a
pair needs one of the lower half right after it. -/
def numberedEscape (cursor : Cursor) : Except Fault (Char × Cursor) := do
  let (unit, cursor) ← cursor.fourDigits
  if 0xDC00 ≤ unit && unit ≤ 0xDFFF then throw (cursor.fault .loneSurrogate)
  if unit < 0xD800 || 0xDC00 ≤ unit then return (Char.ofNat unit, cursor)
  match cursor.rest with
  | [] => throw (cursor.fault .endInString)
  | '\\' :: _ => pure ()
  | _ :: _ => throw (cursor.faultAhead .endOfEscape)
  let cursor := cursor.skip
  match cursor.rest with
  | [] => throw (cursor.fault .endInString)
  | 'u' :: _ => pure ()
  | _ :: _ => throw (cursor.faultAhead .endOfEscape)
  let (second, cursor) ← cursor.skip.fourDigits
  if second < 0xDC00 || 0xDFFF < second then throw (cursor.fault .loneSurrogate)
  return (Char.ofNat ((unit - 0xD800) * 0x400 + (second - 0xDC00) + 0x10000), cursor)

/-- The character of a one-letter escape. -/
def letterEscape : Char → Option Char
  | '"' => some '"'
  | '\\' => some '\\'
  | '/' => some '/'
  | 'b' => some '\x08'
  | 'f' => some '\x0c'
  | 'n' => some '\n'
  | 'r' => some '\r'
  | 't' => some '\t'
  | _ => none

/-- The rest of a string, whose opening quote has been read. `decoded` holds its characters so
far, last one first. Without `decode` the string is only skipped: a number in an escape may
then be any four digits. -/
def stringFrom (decode : Bool) : (fuel : Nat) → (decoded : List Char) → Cursor →
    Except Fault (String × Cursor)
  | 0, _, cursor => .error (cursor.fault .endInString)
  | fuel + 1, decoded, cursor =>
    match cursor.rest with
    | [] => .error (cursor.fault .endInString)
    | '"' :: _ => .ok (String.ofList decoded.reverse, cursor.skip)
    | '\\' :: _ =>
      let cursor := cursor.skip
      match cursor.rest with
      | [] => .error (cursor.fault .endInString)
      | 'u' :: _ =>
        if decode then
          match numberedEscape cursor.skip with
          | .error fault => .error fault
          | .ok (character, cursor) => stringFrom decode fuel (character :: decoded) cursor
        else
          match fourDigits cursor.skip with
          | .error fault => .error fault
          | .ok (_, cursor) => stringFrom decode fuel decoded cursor
      | letter :: _ =>
        match letterEscape letter with
        | some character => stringFrom decode fuel (character :: decoded) cursor.skip
        | none => .error (cursor.faultAhead .invalidEscape)
    | character :: rest =>
      if character.toNat < 0x20 then
        .error (if decode then cursor.skip.fault .controlCharacter
          else cursor.fault .controlCharacter)
      else stringFrom decode fuel (character :: decoded) (cursor.past character rest)

/-- A string whose opening quote has been read. -/
def string (cursor : Cursor) : Except Fault (String × Cursor) :=
  stringFrom true (cursor.size + 1) [] cursor

/-- Skips a string whose opening quote has been read. -/
def skipString (cursor : Cursor) : Except Fault Cursor :=
  (stringFrom false (cursor.size + 1) [] cursor).map (·.2)

end Cursor

end SqlImage.Json
