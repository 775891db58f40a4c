/-
This file reads the statements that create things. Of most of them nothing is kept;
a few have no kind of their own and are known by their first word.
-/

import SqlImage.Sql.Grammar.Column

namespace SqlImage.Sql.Grammar

open SqlImage.Sql.Parser

/-! ### Tables -/

/-- A word or a string that says where a table lives. -/
def clusterName : Parser Unit := do
  let found ← next
  match found.map Located.token with
  | some (.word _) => return ()
  | some (.string .plain _) => return ()
  | _ => expectedAt "identifier or cluster literal" found

/-- A word. -/
def word : Parser Unit := do
  let found ← next
  match found.map Located.token with
  | some (.word _) => return ()
  | _ => expectedAt "identifier" found

/-- A word behind an equals sign. -/
def wordBehindEqual : Parser Unit := do
  expectSymbol .equal
  word

/-- The columns that a table is divided by. -/
def partitionedBy (inner : Inner) : Parser Unit := do
  if ← keywords [.PARTITIONED, .BY] then
    let _ ← parenthesized (commaSeparated (columnDefinition inner))

/-- One word about how a table is stored, if there is one. -/
def storageOption (inner : Inner) : Parser (Option Unit) := do
  match ← oneOf [.ROW, .STORED, .LOCATION] with
  | none => return none
  | some .ROW =>
    expectKeyword .FORMAT
    if (← oneOf [.SERDE, .DELIMITED]) = some .SERDE then
      let _ ← literalText
    return some ()
  | some .STORED =>
    expectKeyword .AS
    if ← keyword .INPUTFORMAT then
      let _ ← inner.expr
      expectKeyword .OUTPUTFORMAT
      let _ ← inner.expr
    else
      let _ ← fileFormat
    return some ()
  | some _ =>
    let _ ← literalText
    return some ()

/-- How a table is stored. -/
def storage (inner : Inner) : Parser Unit := do
  let _ ← many (storageOption inner)

/-- The comment on a table behind its first word. -/
def tableComment : Parser Unit := do
  let _ ← symbol .equal
  plainString "comment"

/-- The first number of a counting column, behind the first word. -/
def firstNumber : Parser Unit := do
  let _ ← symbol .equal
  let found ← next
  match found.map Located.token with
  | some (.number ..) => return ()
  | _ => expectedAt "literal int" found

/-- The columns that a table is sorted by, behind the words that say so. -/
def tableOrder : Parser Unit := do
  if ← symbol .leftParen then
    unless ← atSymbol .rightParen do
      let _ ← commaSeparated ident
    expectSymbol .rightParen
  else
    let _ ← ident

/-- How a table is divided and clustered, and its options. -/
def tableConfiguration (inner : Inner) : Parser Unit := do
  if ← keywords [.PARTITION, .BY] then
    let _ ← inner.expr
  if ← keywords [.CLUSTER, .BY] then
    let _ ← commaSeparated ident
  settingOptions inner .OPTIONS

/-- What happens to the rows of a table at the end of a transaction. -/
def onCommit : Parser Unit := do
  unless ← keywords [.ON, .COMMIT, .DELETE, .ROWS] do
    unless ← keywords [.ON, .COMMIT, .PRESERVE, .ROWS] do
      let _ ← keywords [.ON, .COMMIT, .DROP]

/-- The words behind a thing that may exist already. -/
def ifNotExists : Parser Bool := keywords [.IF, .NOT, .EXISTS]

/-- A table, behind the word that says so. A table that it is made after may be missing. -/
def createTable (inner : Inner) : Parser Unit := do
  let _ ← ifNotExists
  let _ ← name
  if ← keywords [.ON, .CLUSTER] then clusterName
  if (← oneOf [.LIKE, .ILIKE]).isSome then
    let _ ← tolerate name
  if ← keyword .CLONE then
    let _ ← tolerate name
  tableElements inner
  let _ ← keywords [.WITHOUT, .ROWID]
  partitionedBy inner
  storage inner
  settingOptions inner .WITH
  settingOptions inner .TBLPROPERTIES
  if ← keyword .ENGINE then wordBehindEqual
  if ← keyword .AUTO_INCREMENT then firstNumber
  if ← keywords [.ORDER, .BY] then tableOrder
  tableConfiguration inner
  if ← keyword .AS then
    let _ ← inner.query
  if ← keywords [.DEFAULT, .CHARSET] then wordBehindEqual
  if ← keyword .COLLATE then wordBehindEqual
  onCommit
  let _ ← keyword .STRICT
  if ← keyword .COMMENT then tableComment

/-- A table that lives elsewhere, behind the word that says so. -/
def createExternalTable (inner : Inner) : Parser Unit := do
  expectKeyword .TABLE
  let _ ← ifNotExists
  let _ ← name
  tableElements inner
  partitionedBy inner
  storage inner
  settingOptions inner .TBLPROPERTIES

/-- A table that a module makes, behind the word that says so. -/
def createVirtualTable : Parser Unit := do
  expectKeyword .TABLE
  let _ ← ifNotExists
  let _ ← name
  expectKeyword .USING
  let _ ← ident
  let _ ← optionalColumns

/-! ### Views and indexes -/

/-- A column of a view. -/
def viewColumn (inner : Inner) : Parser Unit := do
  let _ ← ident
  settingOptions inner .OPTIONS

/-- The columns of a view, if there are any. -/
def viewColumns (inner : Inner) : Parser Unit := do
  if ← symbol .leftParen then
    unless ← symbol .rightParen do
      let _ ← commaSeparated (viewColumn inner)
      expectSymbol .rightParen

/-- A view, behind the word that says so. -/
def createView (inner : Inner) : Parser Unit := do
  let _ ← ifNotExists
  let _ ← name
  viewColumns inner
  settingOptions inner .WITH
  if ← keyword .CLUSTER then
    expectKeyword .BY
    let _ ← optionalColumns
  settingOptions inner .OPTIONS
  expectKeyword .AS
  let _ ← inner.query
  let _ ← keywords [.WITH, .NO, .SCHEMA, .BINDING]

/-- An index, behind the word that says so. -/
def createIndex (inner : Inner) : Parser Unit := do
  let _ ← keyword .CONCURRENTLY
  let marked ← ifNotExists
  let unnamed ← if marked then pure false else keyword .ON
  unless unnamed do
    let _ ← name
    expectKeyword .ON
  let _ ← name
  if ← keyword .USING then
    let _ ← ident
  let _ ← parenthesized inner.orderItems
  if ← keyword .INCLUDE then
    let _ ← columnList
  if ← keyword .NULLS then
    let _ ← keyword .NOT
    expectKeyword .DISTINCT
  if ← keyword .WHERE then
    let _ ← inner.expr

/-! ### Other things -/

/-- A schema, behind the word that says so. -/
def createSchema : Parser Unit := do
  let _ ← ifNotExists
  unless ← keyword .AUTHORIZATION do
    let _ ← name
    unless ← keyword .AUTHORIZATION do return ()
  let _ ← ident

/-- A database, behind the word that says so. -/
def createDatabase : Parser Unit := do
  let _ ← ifNotExists
  let _ ← name
  let _ ← many (given (return (← oneOf [.LOCATION, .MANAGEDLOCATION]).isSome) literalText)

/-- Roles, behind the word that says so. -/
def createRole : Parser Unit := do
  let _ ← ifNotExists
  let _ ← commaSeparated name
  let _ ← keyword .WITH

/-- A sequence, behind the word that says so. -/
def createSequence (inner : Inner) : Parser Unit := do
  let _ ← ifNotExists
  let _ ← name
  if ← keyword .AS then
    let _ ← inner.dataType
  sequenceOptions
  if ← keywords [.OWNED, .BY] then
    unless ← keyword .NONE do
      let _ ← name

/-- An argument of a macro. -/
def macroArgument (inner : Inner) : Parser Unit := do
  let _ ← ident
  let assigned ← symbol .assign
  let hasDefault ← if assigned then pure true else symbol .fatArrow
  if hasDefault then
    let _ ← inner.expr

/-- A macro, behind the word that says so. -/
def createMacro (inner : Inner) : Parser Unit := do
  let _ ← name
  expectSymbol .leftParen
  unless ← atSymbol .rightParen do
    let _ ← commaSeparated (macroArgument inner)
  expectSymbol .rightParen
  expectKeyword .AS
  if ← keyword .TABLE then
    let _ ← inner.query
  else
    let _ ← inner.expr

/-- An extension, behind the word that says so. -/
def createExtension : Parser Unit := do
  let _ ← ifNotExists
  let _ ← ident
  if ← keyword .WITH then
    if ← keyword .SCHEMA then
      let _ ← ident
    if ← keyword .VERSION then
      let _ ← ident
    let _ ← keyword .CASCADE

/-- An attribute of a type. -/
def typeAttribute (inner : Inner) : Parser Unit := do
  let _ ← ident
  let _ ← inner.dataType
  if ← keyword .COLLATE then
    let _ ← name

/-- A type, behind the word that says so. -/
def createType (inner : Inner) : Parser Unit := do
  let _ ← name
  expectKeyword .AS
  if ← symbol .leftParen then
    definitionList (typeAttribute inner) "',' or ')' after attribute definition"

/-- A parameter of a procedure. Something else than a word is passed over. -/
def procedureParameter (inner : Inner) : Parser Unit := do
  match ← peek with
  | some (.word _) =>
    let _ ← ident
    let _ ← inner.dataType
  | _ => return ()

/-- A procedure, behind the word that says so. -/
def createProcedure (inner : Inner) (statements : Parser (List Statement)) : Parser Unit := do
  let _ ← name
  if ← symbol .leftParen then
    definitionList (procedureParameter inner) "',' or ')' after parameter definition"
  expectKeyword .AS
  expectKeyword .BEGIN
  let _ ← statements
  expectKeyword .END

/-! ### CREATE -/

/-- Runs a parser and gives a statement. -/
def yielding (statement : Statement) (parser : Parser Unit) : Parser Statement := do
  parser
  return statement

/-- The rest of a statement that creates what may take the place of another thing, if it does. -/
def createReplaceable? (inner : Inner) : Parser (Option Statement) := do
  if ← keyword .TABLE then return some (← yielding .create (createTable inner))
  if ← keyword .MATERIALIZED then
    expectKeyword .VIEW
    return some (← yielding .create (createView inner))
  if ← keyword .VIEW then return some (← yielding .create (createView inner))
  if ← keyword .EXTERNAL then return some (← yielding .create (createExternalTable inner))
  if ← atOneOf [.FUNCTION] then expected "an object type after CREATE"
  if ← keyword .MACRO then return some (← yielding (.other "CREATE") (createMacro inner))
  return none

/-- The rest of a statement that creates something new. -/
def createNew (inner : Inner) (statements : Parser (List Statement)) : Parser Statement := do
  if ← keyword .EXTENSION then yielding (.other "CREATE") createExtension
  else if ← keyword .INDEX then yielding .create (createIndex inner)
  else if ← keywords [.UNIQUE, .INDEX] then yielding .create (createIndex inner)
  else if ← keyword .VIRTUAL then yielding .create createVirtualTable
  else if ← keyword .SCHEMA then yielding .create createSchema
  else if ← keyword .DATABASE then yielding .create createDatabase
  else if ← keyword .ROLE then yielding .create createRole
  else if ← keyword .SEQUENCE then yielding .create (createSequence inner)
  else if ← keyword .TYPE then yielding (.other "CREATE") (createType inner)
  else if ← keyword .PROCEDURE then
    yielding (.other "CREATE") (createProcedure inner statements)
  else expected "an object type after CREATE"

/-- A statement that creates something, behind its first word. -/
def create (inner : Inner) (statements : Parser (List Statement)) : Parser Statement := do
  let replaces ← keywords [.OR, .REPLACE]
  let _ ← keywords [.OR, .ALTER]
  let _ ← keyword .LOCAL
  let _ ← keyword .GLOBAL
  let _ ← keyword .TRANSIENT
  let _ ← oneOf [.TEMP, .TEMPORARY]
  match ← createReplaceable? inner with
  | some statement => return statement
  | none =>
    if replaces then
      expected "[EXTERNAL] TABLE or [MATERIALIZED] VIEW or FUNCTION after CREATE OR REPLACE"
    createNew inner statements

end SqlImage.Sql.Grammar
