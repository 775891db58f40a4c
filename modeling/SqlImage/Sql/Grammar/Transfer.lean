/-
This file reads the statements that copy tables from files and to files. Rows may
follow such a statement in the text itself, up to a mark that ends them.
-/

import SqlImage.Sql.Grammar.Change

namespace SqlImage.Sql.Grammar

open SqlImage.Sql.Parser

/-! ### Options -/

/-- An option in parentheses. -/
def copyOption : Parser Unit := do
  match ← oneOf [.FORMAT, .FREEZE, .DELIMITER, .NULL, .HEADER, .QUOTE, .ESCAPE, .FORCE_QUOTE,
      .FORCE_NOT_NULL, .FORCE_NULL, .ENCODING] with
  | some .FORMAT =>
    let _ ← ident
  | some .FREEZE | some .HEADER =>
    let _ ← oneOf [.TRUE, .FALSE]
  | some .DELIMITER | some .QUOTE | some .ESCAPE =>
    let _ ← literalCharacter
  | some .NULL | some .ENCODING =>
    let _ ← literalText
  | some _ =>
    let _ ← requiredColumns
  | none => expected "option"

/-- An option about values with commas between them, without parentheses. -/
def bareValueOption : Parser Unit := do
  match ← oneOf [.HEADER, .QUOTE, .ESCAPE, .FORCE] with
  | some .HEADER => return ()
  | some .QUOTE | some .ESCAPE =>
    let _ ← keyword .AS
    let _ ← literalCharacter
  | some _ =>
    let forced ← do if ← keywords [.NOT, .NULL] then pure true else keyword .QUOTE
    unless forced do expected "csv option"
    let _ ← commaSeparated ident
  | none => expected "csv option"

/-- An option without parentheses. -/
def bareOption : Parser Unit := do
  match ← oneOf [.BINARY, .DELIMITER, .NULL, .CSV] with
  | some .BINARY => return ()
  | some .DELIMITER =>
    let _ ← keyword .AS
    let _ ← literalCharacter
  | some .NULL =>
    let _ ← keyword .AS
    let _ ← literalText
  | some _ =>
    let _ ← many (attempt bareValueOption)
  | none => expected "option"

/-! ### Rows in the text -/

/-- The tokens of rows up to a backslash and a period. A backslash takes the token behind it
along. -/
def rows : Parser Unit := do
  loop () fun _ => do
    match (← next).map Located.token with
    | none => return none
    | some (.symbol .backslash) =>
      if ← symbol .period then return none
      let _ ← next
      return some ()
    | some _ => return some ()

/-! ### COPY -/

/-- What is copied, and whether it is a query. -/
def copySource (inner : Inner) : Parser Bool := do
  if ← symbol .leftParen then
    let _ ← inner.query
    expectSymbol .rightParen
    return true
  let _ ← name
  let _ ← optionalColumns
  return false

/-- Where rows are copied from or to, and whether they stand in the text. -/
def copyTarget : Parser Bool := do
  if ← keyword .STDIN then return true
  if ← keyword .STDOUT then return false
  let _ ← keyword .PROGRAM
  let _ ← literalText
  return false

/-- A statement that copies rows, behind its first word. -/
def copy (inner : Inner) : Parser Statement := do
  let isQuery ← copySource inner
  let outwards ← do
    match ← oneOf [.FROM, .TO] with
    | none => expected "FROM or TO"
    | some word => pure (decide (word = .TO))
  if isQuery && !outwards then
    failWith "COPY ... FROM does not support query as a source"
  let inText ← copyTarget
  let _ ← keyword .WITH
  if ← symbol .leftParen then
    let _ ← commaSeparated copyOption
    expectSymbol .rightParen
  let _ ← many (attempt bareOption)
  if inText then
    expectSymbol .semicolon
    rows
  return if outwards then .copyTo else .copyFrom

end SqlImage.Sql.Grammar
