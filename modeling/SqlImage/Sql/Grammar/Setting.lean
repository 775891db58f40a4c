/-
This file reads the statements that set and show variables and settings.
-/

import SqlImage.Sql.Grammar.Change
import SqlImage.Sql.Grammar.Transaction

namespace SqlImage.Sql.Grammar

open SqlImage.Sql.Parser

/-! ### SET -/

/-- An expression. If there is none, the place where it breaks off is blamed. -/
def valueOr (inner : Inner) (what : String) : Parser Unit := do
  if (← tolerate inner.expr).isNone then expected what

/-- The role that is taken on, behind the word that says so. -/
def role : Parser Unit := do
  unless ← keyword .NONE do
    let _ ← ident

/-- The character set of the connection, behind the word that says so. -/
def connectionNames : Parser Unit := do
  unless ← keyword .DEFAULT do
    let _ ← literalText
    if ← keyword .COLLATE then
      let _ ← literalText

/-- The properties of the transaction, behind the word that says so. -/
def transactionSettings : Parser Unit := do
  if ← keyword .SNAPSHOT then
    let _ ← valuePiece
  else transactionModes

/-- A variable by its name as it is printed, behind the word that says for whom it is set. -/
def setVariable (inner : Inner) (modifier : Option Keyword) (path : String) :
    Parser Statement := do
  let named (name : String) : Bool := path.map Char.toUpper = name
  if named "NAMES" then
    connectionNames
    return .other "SET"
  let assigned ← symbol .equal
  let assigned ← if assigned then pure true else keyword .TO
  if assigned then
    let _ ← commaSeparated (valueOr inner "variable value")
    return .other "SET"
  if named "TIMEZONE" then
    valueOr inner "timezone value"
    return .other "SET"
  if path = "CHARACTERISTICS" then
    expectKeywords [.AS, .TRANSACTION]
    transactionModes
    return .transaction
  if path = "TRANSACTION" ∧ modifier.isNone then
    transactionSettings
    return .transaction
  expected "equals sign or TO"

/-- A statement that sets something, behind its first word. -/
def set (inner : Inner) : Parser Statement := do
  let modifier ← oneOf [.SESSION, .LOCAL, .HIVEVAR]
  if modifier = some .HIVEVAR then expectSymbol .colon
  else if ← keyword .ROLE then
    role
    return .other "SET"
  if ← keywords [.TIME, .ZONE] then setVariable inner modifier "TIMEZONE"
  else setVariable inner modifier (printName (← name))

/-! ### SHOW -/

/-- What shown things must be like, if that is said. -/
def showFilter (inner : Inner) : Parser Unit := do
  match ← oneOf [.LIKE, .ILIKE, .WHERE] with
  | none => return ()
  | some .WHERE =>
    let _ ← inner.expr
  | some _ =>
    let _ ← literalText

/-- The columns of a table, behind the word that says so. -/
def showColumns (inner : Inner) : Parser Unit := do
  let _ ← expectOneOf [.FROM, .IN]
  let _ ← name
  if (← oneOf [.FROM, .IN]).isSome then
    let _ ← ident
  showFilter inner

/-- The tables of a database, behind the word that says so. -/
def showTables (inner : Inner) : Parser Unit := do
  if (← oneOf [.FROM, .IN]).isSome then
    let _ ← ident
  showFilter inner

/-- The statement that would create a thing, behind the word that says so. -/
def showCreate : Parser Unit := do
  let _ ← expectOneOf [.TABLE, .TRIGGER, .FUNCTION, .PROCEDURE, .EVENT, .VIEW]
  let _ ← name

/-- A statement that shows something, behind its first word. A variable may have any words in its
name. -/
def showSetting (inner : Inner) : Parser Unit := do
  let extended ← keyword .EXTENDED
  let full ← keyword .FULL
  let _ ← keyword .SESSION
  let _ ← keyword .GLOBAL
  if (← oneOf [.COLUMNS, .FIELDS]).isSome then showColumns inner
  else if ← keyword .TABLES then showTables inner
  else if ← keyword .FUNCTIONS then showFilter inner
  else if extended || full then
    failWith "EXTENDED/FULL are not supported with this type of SHOW query"
  else if ← keyword .CREATE then showCreate
  else if (← oneOf [.COLLATION, .VARIABLES]).isSome then showFilter inner
  else
    let _ ← wordsToEqual

/-! ### PRAGMA -/

/-- The value of a pragma: a number, a string, or a place for one. -/
def pragmaValue : Parser Unit := do
  let found ← peekLocated
  match ← valuePiece with
  | .expr (.literal (.number ..)) => return ()
  | .expr (.literal (.string .plain _)) => return ()
  | .expr (.literal (.placeholder _)) => return ()
  | piece =>
    match found.map Located.token, piece with
    | some (.word ⟨_, some _, _⟩), .text _ => return ()
    | _, _ => expectedAt "number or string or ? placeholder" found

/-- A pragma behind its first word. -/
def pragma : Parser Unit := do
  let _ ← name
  if ← symbol .leftParen then
    pragmaValue
    expectSymbol .rightParen
  else if ← symbol .equal then pragmaValue

end SqlImage.Sql.Grammar
