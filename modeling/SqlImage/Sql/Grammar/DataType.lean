/-
This file reads the names of data types. Of a type only its printed form is kept,
and whether it is an interval, a type of the standard, or a name that somebody
else has to know. Types in angle brackets may close two levels with one shift
operator, so a type may come with a bracket that closes the type around it.
-/

import SqlImage.Sql.Grammar.Name

namespace SqlImage.Sql

/-- What sort of type a name stands for. -/
inductive DataTypeClass where
  | interval
  | builtIn
  | custom
deriving DecidableEq, Repr

/-- A data type as it is printed. -/
structure DataType where
  written : String
  sort : DataTypeClass
deriving DecidableEq, Repr

/-- A data type, and whether a bracket that was read with it closes the type around it. -/
structure OpenType where
  dataType : DataType
  closesOuter : Bool

namespace Grammar

open SqlImage.Sql.Parser

/-! ### Sizes -/

/-- A type with a whole number in parentheses, if there is one. -/
def sized (written : String) : Parser String := do
  match ← precision? with
  | none => return written
  | some digits => return written ++ "(" ++ toString digits ++ ")"

/-- An integer type with an optional width and sign. Behind a width that is none the word for the
sign is taken all the same. -/
def integerType (written : String) : Parser String := do
  let width ← outcome (sized written)
  let isUnsigned ← keyword .UNSIGNED
  match width with
  | .ok text => return if isUnsigned then text ++ " UNSIGNED" else text
  | .error error => fail error

/-- A text type with an optional length in characters or bytes. -/
def characterType (written : String) : Parser String := do
  unless ← symbol .leftParen do return written
  if ← keyword .MAX then
    expectSymbol .rightParen
    return written ++ "(MAX)"
  let length ← wholeNumber
  let unit ← oneOf [.CHARACTERS, .OCTETS]
  expectSymbol .rightParen
  let suffix := (unit.map (" " ++ ·.spelling)).getD ""
  return written ++ "(" ++ toString length ++ suffix ++ ")"

/-- An exact number type with an optional precision and scale. -/
def exactNumberType (written : String) : Parser String := do
  match ← precisionAndScale? with
  | (none, _) => return written
  | (some digits, none) => return written ++ "(" ++ toString digits ++ ")"
  | (some digits, some scale) =>
    return written ++ "(" ++ toString digits ++ "," ++ toString scale ++ ")"

/-- A type for points in time with an optional precision, with or without a time zone. -/
def momentType (written : String) : Parser String := do
  let text ← sized written
  if ← keyword .WITH then
    expectKeywords [.TIME, .ZONE]
    return text ++ " WITH TIME ZONE"
  if ← keyword .WITHOUT then
    expectKeywords [.TIME, .ZONE]
    return text ++ " WITHOUT TIME ZONE"
  return text

/-! ### Modifiers -/

/-- One value of an enumeration. -/
def enumerationValue : Parser String := do
  let found ← next
  match found.map Located.token with
  | some (.string .plain content) => return enquote '\'' content
  | _ => expectedAt "a string" found

/-- The values of an enumeration. -/
def enumerationValues : Parser (List String) := do
  expectSymbol .leftParen
  let first ← enumerationValue
  let rest ← many do
    if ← symbol .comma then return some (← enumerationValue)
    if ← symbol .rightParen then return none
    expectedAt ", or \x7d" (← next)
  return first :: rest

/-- One modifier of a type, none at the end. Commas between them may be missing. -/
def modifierFrom : (fuel : Nat) → Parser (Option String)
  | 0 => return none
  | fuel + 1 => do
    let found ← next
    match found.map Located.token with
    | some (.word word) => return some word.text
    | some (.number digits _) => return some digits
    | some (.string .plain content) => return some content
    | some (.symbol .comma) => modifierFrom fuel
    | some (.symbol .rightParen) => return none
    | _ => expectedAt "type modifiers" found

/-- The modifiers of a type, if there are any. -/
def modifiers : Parser (List String) := do
  unless ← symbol .leftParen do return []
  many (counted fun count => modifierFrom (count + 1))

/-! ### Types in angle brackets -/

/-- The bracket that closes a type, unless it was read already. The result says whether one more
level is closed by it. -/
def closingBracket (closed : Bool) : Parser Bool := do
  if closed then return false
  if ← symbol .greater then return false
  if ← symbol .shiftRight then return true
  expected ">"

/-! ### Types -/

/-- The types that have nothing behind their name. -/
def plainTypes : List Keyword := [
  .BOOLEAN, .BOOL, .REAL, .FLOAT4, .FLOAT64, .FLOAT8, .INT64, .UUID, .DATE, .JSON, .JSONB,
  .REGCLASS, .TEXT, .BYTEA]

/-- The types that may have a size. -/
def sizedTypes : List Keyword := [
  .FLOAT, .NVARCHAR, .CLOB, .BINARY, .VARBINARY, .BLOB, .BYTES, .DATETIME, .STRING, .TIMESTAMPTZ,
  .TIMETZ]

/-- The types for integers. -/
def integerTypes : List Keyword := [
  .TINYINT, .INT2, .SMALLINT, .MEDIUMINT, .INT, .INT4, .INT8, .INTEGER, .BIGINT]

/-- The types for exact numbers. -/
def exactNumberTypes : List Keyword := [.NUMERIC, .DECIMAL, .DEC, .BIGNUMERIC, .BIGDECIMAL]

/-- The rest of a type of the standard behind its first word, if the word begins one. -/
def builtInType (first : Keyword) : Option (Parser String) :=
  if first ∈ plainTypes then some (pure first.spelling)
  else if first ∈ sizedTypes then some (sized first.spelling)
  else if first ∈ integerTypes then some (integerType first.spelling)
  else if first ∈ exactNumberTypes then some (exactNumberType first.spelling)
  else
    match first with
    | .VARCHAR => some (characterType first.spelling)
    | .CHARACTER | .CHAR => some do
      if ← keyword .VARYING then characterType (first.spelling ++ " VARYING")
      else if ← keywords [.LARGE, .OBJECT] then sized (first.spelling ++ " LARGE OBJECT")
      else characterType first.spelling
    | .DOUBLE => some do
      return if ← keyword .PRECISION then "DOUBLE PRECISION" else "DOUBLE"
    | .TIMESTAMP | .TIME => some (momentType first.spelling)
    | .ENUM | .SET => some do
      return first.spelling ++ "(" ++ separated ", " (← enumerationValues) ++ ")"
    | _ => none

/-- A type with a name of its own. -/
def customType : Parser String := do
  let typeName ← name
  match ← modifiers with
  | [] => return printName typeName
  | found => return printName typeName ++ "(" ++ separated ", " found ++ ")"

/-- A type without the brackets that make it an array. -/
def elementType (inner : Parser OpenType) : Parser OpenType := do
  let found ← peekLocated
  match found.map Located.token with
  | some (.word word) =>
    match word.keyword with
    | some .INTERVAL => do
      let _ ← next
      return ⟨⟨"INTERVAL", .interval⟩, false⟩
    | some .ARRAY => do
      let _ ← next
      expectSymbol .less
      let type ← inner
      return ⟨⟨"ARRAY<" ++ type.dataType.written ++ ">", .builtIn⟩,
        ← closingBracket type.closesOuter⟩
    | first =>
      match first.bind builtInType with
      | some rest => do
        let _ ← next
        return ⟨⟨← rest, .builtIn⟩, false⟩
      | none => return ⟨⟨← customType, .custom⟩, false⟩
  | _ => expectedAt "a data type name" (← next)

/-- A type, which may be an array by the brackets behind it. -/
def openType (inner : Parser OpenType) : Parser OpenType := do
  loop (← elementType inner) fun type => do
    unless ← symbol .leftBracket do return none
    expectSymbol .rightBracket
    return some ⟨⟨type.dataType.written ++ "[]", .builtIn⟩, type.closesOuter⟩

/-- A whole type, which closes nothing around it. -/
def wholeType (inner : Parser OpenType) : Parser DataType := do
  let type ← openType inner
  if type.closesOuter then
    let found := ((← peek).map Token.text).getD "EOF"
    failWith ("unmatched > after parsing data type " ++ type.dataType.written ++ found)
  return type.dataType

end Grammar

end SqlImage.Sql
