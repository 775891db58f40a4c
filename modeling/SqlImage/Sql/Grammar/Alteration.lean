/-
This file reads the statements that alter things and that drop them. Of an altered
table it is kept whether nothing but its name was changed.
-/

import SqlImage.Sql.Grammar.Definition

namespace SqlImage.Sql.Grammar

open SqlImage.Sql.Parser

/-! ### Columns and constraints of a table -/

/-- A column, a constraint or partitions that a table gets. -/
def addition (inner : Inner) : Parser Unit := do
  if ← tableConstraint inner then return ()
  let _ ← ifNotExists
  let partitions ← many (given (keyword .PARTITION) (parenthesized inner.exprs))
  if partitions.isEmpty then
    let _ ← keyword .COLUMN
    let _ ← ifNotExists
    columnDefinition inner

/-- What a table loses. -/
def removal (inner : Inner) : Parser Unit := do
  if ← keywords [.IF, .EXISTS, .PARTITION] then
    let _ ← parenthesized inner.exprs
  else if ← keyword .PARTITION then
    let _ ← parenthesized inner.exprs
  else if ← keyword .CONSTRAINT then
    let _ ← keywords [.IF, .EXISTS]
    let _ ← ident
    let _ ← keyword .CASCADE
  else unless ← keywords [.PRIMARY, .KEY] do
    let _ ← keyword .COLUMN
    let _ ← keywords [.IF, .EXISTS]
    let _ ← ident
    let _ ← keyword .CASCADE

/-- A column that gets another name and type. -/
def replacement (inner : Inner) : Parser Unit := do
  let _ ← keyword .COLUMN
  let _ ← ident
  let _ ← ident
  let _ ← inner.dataType
  let _ ← many do return if ← columnOption inner then some () else none

/-- A column that is counted by itself, behind the words that say so. -/
def generatedBy : Parser Unit := do
  unless ← keyword .ALWAYS do
    let _ ← keywords [.BY, .DEFAULT]
  expectKeywords [.AS, .IDENTITY]
  if ← symbol .leftParen then
    sequenceOptions
    expectSymbol .rightParen

/-- A column that keeps its name. -/
def columnAlteration (inner : Inner) : Parser Unit := do
  let _ ← keyword .COLUMN
  let _ ← ident
  if ← keywords [.SET, .NOT, .NULL] then return ()
  if ← keywords [.DROP, .NOT, .NULL] then return ()
  if ← keywords [.SET, .DEFAULT] then
    let _ ← inner.expr
  else if ← keywords [.DROP, .DEFAULT] then return ()
  else if ← keywords [.SET, .DATA, .TYPE] then
    let _ ← inner.dataType
  else if ← keywords [.ADD, .GENERATED] then generatedBy
  else expected "SET/DROP NOT NULL, SET DEFAULT, or SET DATA TYPE after ALTER COLUMN"

/-! ### Rules and partitions of a table -/

/-- The security, a rule or a trigger that is switched on or off. -/
def switched (choices : List (List Keyword)) (what : String) : Parser Unit := do
  if ← keywords [.ROW, .LEVEL, .SECURITY] then return ()
  let found ← choices.findSomeM? fun choice => do
    return if ← keywords choice then some () else none
  if found.isNone then expected what
  let _ ← ident

/-- Partitions that get other values. -/
def movedPartitions (inner : Inner) : Parser Unit := do
  let _ ← parenthesized inner.exprs
  expectKeywords [.RENAME, .TO, .PARTITION]
  let _ ← parenthesized inner.exprs

/-! ### ALTER -/

/-- One alteration of a table, and whether it changes the name of the table only. -/
def tableAlteration (inner : Inner) : Parser Bool := do
  match ← oneOf [.ADD, .RENAME, .DISABLE, .ENABLE, .DROP, .PARTITION, .CHANGE, .ALTER, .SWAP] with
  | some .ADD => addition inner
  | some .RENAME =>
    if ← keyword .TO then
      let _ ← name
      return true
    let _ ← keyword .COLUMN
    let _ ← ident
    expectKeyword .TO
    let _ ← ident
  | some .DISABLE =>
    switched [[.RULE], [.TRIGGER]] "ROW LEVEL SECURITY, RULE, or TRIGGER after DISABLE"
  | some .ENABLE =>
    switched
      [[.ALWAYS, .RULE], [.ALWAYS, .TRIGGER], [.REPLICA, .RULE], [.REPLICA, .TRIGGER], [.RULE],
        [.TRIGGER]]
      "ALWAYS, REPLICA, ROW LEVEL SECURITY, RULE, or TRIGGER after ENABLE"
  | some .DROP => removal inner
  | some .PARTITION => movedPartitions inner
  | some .CHANGE => replacement inner
  | some .ALTER => columnAlteration inner
  | some _ =>
    expectKeyword .WITH
    let _ ← name
  | none => expected "ADD, RENAME, PARTITION, SWAP or DROP after ALTER TABLE"
  return false

/-- A table that is altered, behind the word that says so. -/
def alterTable (inner : Inner) : Parser Statement := do
  let _ ← keywords [.IF, .EXISTS]
  let _ ← keyword .ONLY
  let _ ← name
  let alterations ← commaSeparated (tableAlteration inner)
  return if alterations.all id then .rename else .alter

/-- An index that is altered, behind the word that says so. -/
def alterIndex : Parser Unit := do
  let _ ← name
  unless ← keyword .RENAME do expected "RENAME after ALTER INDEX"
  unless ← keyword .TO do expected "TO after RENAME"
  let _ ← name

/-- A view that is altered, behind the word that says so. -/
def alterView (inner : Inner) : Parser Unit := do
  let _ ← name
  let _ ← optionalColumns
  settingOptions inner .WITH
  expectKeyword .AS
  let _ ← inner.query

/-- A statement that alters something, behind its first word. -/
def alter (inner : Inner) : Parser Statement := do
  match ← expectOneOf [.VIEW, .TABLE, .INDEX, .ROLE] with
  | .VIEW => yielding .alter (alterView inner)
  | .TABLE => alterTable inner
  | .INDEX => yielding .alter alterIndex
  | _ => failWith "ALTER ROLE is only support for PostgreSqlDialect, MsSqlDialect"

/-! ### DROP -/

/-- The type of an argument of a function, behind its name if it has one. -/
def typedArgument (inner : Inner) : Parser Unit := do
  let _ ← oneOf [.IN, .OUT, .INOUT]
  let dataType ← inner.dataType
  if dataType.sort = .custom then
    let _ ← inner.dataType
  let byWord ← keyword .DEFAULT
  let hasDefault ← if byWord then pure true else symbol .equal
  if hasDefault then
    let _ ← inner.expr

/-- A function that is dropped. -/
def droppedFunction (inner : Inner) : Parser Unit := do
  let _ ← name
  if ← symbol .leftParen then
    unless ← symbol .rightParen do
      let _ ← commaSeparated (typedArgument inner)
      expectSymbol .rightParen

/-- What happens to things that depend on a dropped one. Only one way can be chosen, and a role
has none. -/
def dropBehaviour (isRole : Bool) : Parser Unit := do
  let start ← peekLocated
  let cascades ← keyword .CASCADE
  let restricts ← keyword .RESTRICT
  let purges ← keyword .PURGE
  if cascades && restricts then
    failAt "Cannot specify both CASCADE and RESTRICT in DROP" start
  if isRole && (cascades || restricts || purges) then
    failAt "Cannot specify CASCADE, RESTRICT, or PURGE in DROP ROLE" start

/-- A statement that drops something, behind its first word. -/
def drop (inner : Inner) : Parser Unit := do
  let _ ← keyword .TEMPORARY
  match ← oneOf [.TABLE, .VIEW, .INDEX, .ROLE, .SCHEMA, .SEQUENCE, .STAGE, .FUNCTION] with
  | none => expected "TABLE, VIEW, INDEX, ROLE, SCHEMA, FUNCTION, STAGE or SEQUENCE after DROP"
  | some .FUNCTION =>
    let _ ← keywords [.IF, .EXISTS]
    let _ ← commaSeparated (droppedFunction inner)
    let _ ← oneOf [.CASCADE, .RESTRICT]
  | some sort =>
    let _ ← keywords [.IF, .EXISTS]
    let _ ← commaSeparated name
    dropBehaviour (sort = .ROLE)

end SqlImage.Sql.Grammar
