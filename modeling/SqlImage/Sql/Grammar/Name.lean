/-
This file reads the leaves of SQL: names, aliases, literal texts and numbers, and
the fields of dates and times. A keyword may be a name almost everywhere, so each
place lists the few words that it keeps for something else.
-/

import SqlImage.Sql.Parser
import SqlImage.Sql.Syntax.Print
import SqlImage.Text.Quoted

namespace SqlImage.Sql.Grammar

open SqlImage.Sql.Parser

/-! ### Names -/

/-- The name that a word is. -/
def identOfWord (word : Word) : Ident := ⟨word.value, word.quote⟩

/-- The name that a token is: a word, or a string between single quotes. -/
def identOfToken? : Token → Option Ident
  | .word word => some (identOfWord word)
  | .string .plain content => some ⟨content, some '\''⟩
  | _ => none

/-- A name. -/
def ident : Parser Ident := do
  let found ← next
  match (found.map Located.token).bind identOfToken? with
  | some name => return name
  | none => expectedAt "identifier" found

/-- A name with dots in it. -/
def name : Parser (List Ident) := sepBy (symbol .period) ident

/-- Names with commas between them, in parentheses. -/
def columnList : Parser (List Ident) := parenthesized (commaSeparated ident)

/-- Names in parentheses, which must stand here. -/
def requiredColumns : Parser (List Ident) := do
  if ← atSymbol .leftParen then columnList else expected "a list of columns in parentheses"

/-- Names in parentheses, if there are any. -/
def optionalColumns : Parser (List Ident) := do
  if ← atSymbol .leftParen then columnList else return []

/-! ### Aliases -/

/-- The words that are no alias of a column unless `AS` stands before them. -/
def reservedForColumns : List Keyword := [
  .WITH, .EXPLAIN, .ANALYZE, .SELECT, .WHERE, .GROUP, .SORT, .HAVING, .ORDER, .TOP, .LATERAL,
  .VIEW, .LIMIT, .OFFSET, .FETCH, .UNION, .EXCEPT, .INTERSECT, .CLUSTER, .DISTRIBUTE, .FROM,
  .INTO, .END]

/-- The words that are no alias of a table unless `AS` stands before them. -/
def reservedForTables : List Keyword := [
  .WITH, .EXPLAIN, .ANALYZE, .SELECT, .WHERE, .GROUP, .SORT, .HAVING, .ORDER, .PIVOT, .UNPIVOT,
  .TOP, .LATERAL, .VIEW, .LIMIT, .OFFSET, .FETCH, .UNION, .EXCEPT, .INTERSECT, .ON, .JOIN,
  .INNER, .CROSS, .FULL, .LEFT, .RIGHT, .NATURAL, .USING, .CLUSTER, .DISTRIBUTE, .OUTER, .SET,
  .QUALIFY, .WINDOW, .END, .FOR, .PARTITION]

/-- Whether a token is one of some keywords. -/
def isOneOf (keywords : List Keyword) (token : Token) : Bool :=
  token.keyword?.any (· ∈ keywords)

/-- An alias, if there is one. Behind `AS` every name is one, otherwise the reserved words are
not. -/
def aliasUnless (reserved : List Keyword) : Parser (Option Ident) := do
  let marked ← keyword .AS
  let found ← peek
  match found.bind identOfToken? with
  | some name =>
    if !marked && found.any (isOneOf reserved) then return none
    let _ ← next
    return some name
  | none =>
    if marked then expectedAt "an identifier after AS" (← next) else return none

/-- The alias of a table with the names of its columns, if there is one. -/
def tableAlias : Parser (Option TableAlias) := do
  match ← aliasUnless reservedForTables with
  | none => return none
  | some name => return some ⟨name, ← optionalColumns⟩

/-! ### Literals -/

/-- The text of a string, or of a word that is no keyword. -/
def literalText : Parser String := do
  let found ← next
  match found.map Located.token with
  | some (.word ⟨value, _, none⟩) => return value
  | some (.string .plain content) => return content
  | some (.string .escaped content) => return content
  | _ => expectedAt "literal string" found

/-- A text of one byte. -/
def literalCharacter : Parser Char := do
  let found ← peekLocated
  let content ← literalText
  match content.toList with
  | [character] =>
    if character.toNat < 0x80 then return character
    failAt ("Expect a char, found " ++ Text.quoted content) found
  | _ => failAt ("Expect a char, found " ++ Text.quoted content) found

/-- The one-byte text behind `ESCAPE`, if there is one. -/
def escapeCharacter : Parser (Option Char) := given (keyword .ESCAPE) literalCharacter

/-- Why digits are no whole number that fits 64 bits, or the number that they are. The digits are
looked at one after the other. -/
def wholeNumberFrom : (value : Nat) → List Char → Except String Nat
  | value, [] => .ok value
  | value, digit :: rest =>
    if digit.isDigit then
      let value := value * 10 + (digit.toNat - '0'.toNat)
      if value < UInt64.size then wholeNumberFrom value rest
      else .error "number too large to fit in target type"
    else .error "invalid digit found in string"

/-- A whole number that fits 64 bits. -/
def wholeNumber : Parser Nat := do
  let found ← next
  match found.map Located.token with
  | some (.number digits _) =>
    match wholeNumberFrom 0 digits.toList with
    | .ok value => return value
    | .error reason => failWith ("Could not parse '" ++ digits ++ "' as u64: " ++ reason)
  | _ => expectedAt "literal int" found

/-- A whole number in parentheses, if there is one. -/
def precision? : Parser (Option Nat) := do
  if ← atSymbol .leftParen then return some (← parenthesized wholeNumber) else return none

/-- One or two whole numbers in parentheses, if there are any. -/
def precisionAndScale? : Parser (Option Nat × Option Nat) := do
  unless ← symbol .leftParen do return (none, none)
  let digits ← wholeNumber
  let scale ← given (symbol .comma) wholeNumber
  expectSymbol .rightParen
  return (some digits, scale)

/-- The value behind a colon or an at sign, which is a placeholder. -/
def markedPlaceholder (mark : Symbol) : Parser Literal := do
  let found ← next
  match found.map Located.token with
  | some (.word word) => return .placeholder (mark.text ++ word.value)
  | some (.number digits false) => return .placeholder (mark.text ++ digits)
  | _ => expectedAt "placeholder" found

/-- What a value is printed as where unquoted words count as values too. -/
def valuePiece : Parser Piece := do
  let found ← next
  match found.map Located.token with
  | some (.word word) =>
    match word.keyword, word.quote with
    | some .TRUE, _ => return .expr (.literal (.boolean true))
    | some .FALSE, _ => return .expr (.literal (.boolean false))
    | some .NULL, _ => return .expr (.literal .null)
    | none, some '"' => return .text (enquote '"' word.value)
    | none, some _ => expectedAt "A value?" found
    | none, none => return .text word.value
    | some keyword, none =>
      if keyword ∈ [Keyword.LOCATION, .TYPE, .DATE, .START, .END] then return .text word.value
      expectedAt "a concrete value" found
    | some _, some _ => expectedAt "a concrete value" found
  | some (.number digits long) => return .expr (.literal (.number digits long))
  | some (.string style content) => return .expr (.literal (.string style content))
  | some (.dollarString tag content) => return .expr (.literal (.dollarString tag content))
  | some (.placeholder name) => return .expr (.literal (.placeholder name))
  | some (.symbol .colon) => return .expr (.literal (← markedPlaceholder .colon))
  | some (.symbol .at) => return .expr (.literal (← markedPlaceholder .at))
  | _ => expectedAt "a value" found

/-! ### Fields of dates and times -/

/-- The fields that an interval may be counted in. -/
def intervalFields : List Keyword := [
  .YEAR, .MONTH, .WEEK, .DAY, .HOUR, .MINUTE, .SECOND, .CENTURY, .DECADE, .DOW, .DOY, .EPOCH,
  .ISODOW, .ISOYEAR, .JULIAN, .MICROSECOND, .MICROSECONDS, .MILLENIUM, .MILLENNIUM,
  .MILLISECOND, .MILLISECONDS, .NANOSECOND, .NANOSECONDS, .QUARTER, .TIMEZONE, .TIMEZONE_HOUR,
  .TIMEZONE_MINUTE]

/-- The fields of a date or a time that no interval is counted in. -/
def otherFields : List Keyword := [
  .DATE, .DAYOFWEEK, .DAYOFYEAR, .ISOWEEK, .TIME, .TIMEZONE_ABBR, .TIMEZONE_REGION]

/-- A field of a date or a time. -/
def timeField : Parser Keyword := do
  let found ← next
  match (found.map Located.token).bind Token.keyword? with
  | some field =>
    if field ∈ otherFields ∨ field ∈ intervalFields then return field
    expectedAt "date/time field" found
  | none => expectedAt "date/time field" found

/-- How the value of an interval is counted. Seconds have a form of their own, with the digits
of their fraction in the first parentheses. -/
def intervalUnit : Parser IntervalUnit := do
  let leading ← given (atOneOf intervalFields) timeField
  if leading = some .SECOND then
    let (leadingPrecision, fractionalPrecision) ← precisionAndScale?
    return ⟨leading, leadingPrecision, none, fractionalPrecision⟩
  let leadingPrecision ← precision?
  unless ← keyword .TO do return ⟨leading, leadingPrecision, none, none⟩
  let last ← timeField
  let fractionalPrecision ← if last = .SECOND then precision? else pure none
  return ⟨leading, leadingPrecision, some last, fractionalPrecision⟩

end SqlImage.Sql.Grammar
