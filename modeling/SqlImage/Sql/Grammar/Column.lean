/-
This file reads the columns of tables and the constraints on them. Nothing of them
is kept, so the parsers only say whether there was something to read.
-/

import SqlImage.Sql.Grammar.Change

namespace SqlImage.Sql.Grammar

open SqlImage.Sql.Parser

/-! ### Values and options -/

/-- A number or a place for one. -/
def numberValue : Parser Unit := do
  let found ← peekLocated
  match ← valuePiece with
  | .expr (.literal (.number ..)) => return ()
  | .expr (.literal (.placeholder _)) => return ()
  | _ => expectedAt "literal number" found

/-- An option with its value. -/
def settingOption (inner : Inner) : Parser Unit := do
  let _ ← ident
  expectSymbol .equal
  let _ ← inner.expr

/-- Options in parentheses behind some word, if the word is next. -/
def settingOptions (inner : Inner) (word : Keyword) : Parser Unit := do
  if ← keyword word then
    let _ ← parenthesized (commaSeparated (settingOption inner))

/-- A number in front of which a word may stand. -/
def numberBehind (word : Keyword) : Parser Unit := do
  let _ ← keyword word
  numberValue

/-- A bound of a sequence, if it is given. -/
def sequenceBound (word : Keyword) : Parser Unit := do
  if ← keyword word then numberValue
  else
    let _ ← keywords [.NO, word]

/-- The options of a sequence. -/
def sequenceOptions : Parser Unit := do
  if ← keyword .INCREMENT then numberBehind .BY
  sequenceBound .MINVALUE
  sequenceBound .MAXVALUE
  if ← keyword .START then numberBehind .WITH
  if ← keyword .CACHE then numberValue
  unless ← keywords [.NO, .CYCLE] do
    let _ ← keyword .CYCLE

/-! ### Parts of constraints -/

/-- What happens to rows whose referenced row changes. -/
def referentialAction : Parser Unit := do
  if ← keyword .RESTRICT then return ()
  if ← keyword .CASCADE then return ()
  if ← keywords [.SET, .NULL] then return ()
  if ← keywords [.NO, .ACTION] then return ()
  if ← keywords [.SET, .DEFAULT] then return ()
  expected "one of RESTRICT, CASCADE, SET NULL, NO ACTION or SET DEFAULT"

/-- What happens when the referenced row is deleted or updated, each said once at most. -/
def referentialActions : Parser Unit := do
  let _ ← loop (false, false) fun (onDelete, onUpdate) => do
    if !onDelete then
      if ← keywords [.ON, .DELETE] then
        referentialAction
        return some (true, onUpdate)
    if !onUpdate then
      if ← keywords [.ON, .UPDATE] then
        referentialAction
        return some (onDelete, true)
    return none

/-- When a constraint is checked and whether it is at all, each said once at most. -/
def characteristics : Parser Unit := do
  let _ ← loop (false, false, false) fun (deferrable, initially, enforced) => do
    if !deferrable then
      if ← keywords [.NOT, .DEFERRABLE] then return some (true, initially, enforced)
      if ← keyword .DEFERRABLE then return some (true, initially, enforced)
    if !initially then
      if ← keyword .INITIALLY then
        if (← oneOf [.DEFERRED, .IMMEDIATE]).isNone then
          expected "one of DEFERRED or IMMEDIATE"
        return some (deferrable, true, enforced)
    if !enforced then
      if ← keyword .ENFORCED then return some (deferrable, initially, true)
      if ← keywords [.NOT, .ENFORCED] then return some (deferrable, initially, true)
    return none

/-- How an index is built. -/
def indexType : Parser Unit := do
  if (← oneOf [.BTREE, .HASH]).isNone then expected "index type \x7bBTREE | HASH\x7d"

/-! ### Columns -/

/-- A column that is computed, behind the word that says so. -/
def computedColumn (inner : Inner) : Parser Unit := do
  let _ ← inner.parenthesizedExpr
  let _ ← oneOf [.STORED, .VIRTUAL]

/-- The options of a sequence in parentheses, if there are any. -/
def identityOptions : Parser Unit := do
  if ← symbol .leftParen then
    sequenceOptions
    expectSymbol .rightParen

/-- How a column is generated, behind the first word. The words stay taken when what follows them
is something else. -/
def generatedColumn (inner : Inner) : Parser Bool := do
  if ← keywords [.ALWAYS, .AS, .IDENTITY] then
    identityOptions
    return true
  if ← keywords [.BY, .DEFAULT, .AS, .IDENTITY] then
    identityOptions
    return true
  if ← keywords [.ALWAYS, .AS] then
    unless ← atSymbol .leftParen do return false
    computedColumn inner
    return true
  return false

/-- The column that a column refers to, behind the first word. -/
def reference : Parser Unit := do
  let _ ← name
  let _ ← optionalColumns
  referentialActions
  characteristics

/-- A string between single quotes. -/
def plainString (what : String) : Parser Unit := do
  let found ← next
  match found.map Located.token with
  | some (.string .plain _) => return ()
  | _ => expectedAt what found

/-- An option of a column that begins with one keyword, behind it. -/
def columnOptionBehind (inner : Inner) (word : Keyword) : Parser Bool := do
  match word with
  | .COMMENT => plainString "string"
  | .DEFAULT =>
    let _ ← inner.expr
  | .UNIQUE => characteristics
  | .REFERENCES => reference
  | .CHECK =>
    let _ ← inner.parenthesizedExpr
  | .GENERATED => return ← generatedColumn inner
  | .OPTIONS =>
    let _ ← parenthesized (commaSeparated (settingOption inner))
  | .AS => computedColumn inner
  | _ => return true
  return true

/-- The keywords that begin an option of a column by themselves. -/
def columnOptionWords : List Keyword := [
  .COMMENT, .NULL, .DEFAULT, .UNIQUE, .REFERENCES, .CHECK, .AUTO_INCREMENT, .AUTOINCREMENT,
  .GENERATED, .OPTIONS, .AS]

/-- An option of a column, and whether there was one. -/
def columnOption (inner : Inner) : Parser Bool := do
  if ← keywords [.CHARACTER, .SET] then
    let _ ← name
    return true
  if ← keywords [.NOT, .NULL] then return true
  if ← keywords [.PRIMARY, .KEY] then
    characteristics
    return true
  if ← keywords [.ON, .UPDATE] then
    let _ ← inner.expr
    return true
  match ← oneOf columnOptionWords with
  | some word => columnOptionBehind inner word
  | none => return false

/-- The options of a column, some of them with a name, and its collation among them. -/
def columnOptions (inner : Inner) : Parser Unit := do
  loop () fun _ => do
    if ← keyword .CONSTRAINT then
      let _ ← ident
      unless ← columnOption inner do expected "constraint details after CONSTRAINT <name>"
      return some ()
    if ← columnOption inner then return some ()
    if ← keyword .COLLATE then
      let _ ← name
      return some ()
    return none

/-- The definition of a column. -/
def columnDefinition (inner : Inner) : Parser Unit := do
  let _ ← ident
  let _ ← inner.dataType
  columnOptions inner

/-! ### Constraints -/

/-- A constraint that keeps rows apart, behind the first word. -/
def uniqueConstraint : Parser Unit := do
  let _ ← keyword .KEY
  let _ ← attempt ident
  let _ ← requiredColumns
  characteristics

/-- A constraint that ties rows to those of another table, behind the first word. -/
def foreignConstraint : Parser Unit := do
  expectKeyword .KEY
  let _ ← requiredColumns
  expectKeyword .REFERENCES
  let _ ← name
  let _ ← requiredColumns
  referentialActions
  characteristics

/-- An index among the constraints, behind the first word. -/
def indexConstraint : Parser Unit := do
  unless ← atOneOf [.USING] do
    let _ ← attempt ident
  if ← keyword .USING then indexType
  let _ ← requiredColumns

/-- An index for texts or places among the constraints, behind the first word. -/
def textIndexConstraint : Parser Unit := do
  unless ← keyword .KEY do
    let _ ← keyword .INDEX
  let _ ← attempt ident
  let _ ← requiredColumns

/-- The words that begin a constraint. -/
def constraintWords : List Keyword := [
  .PRIMARY, .UNIQUE, .FOREIGN, .CHECK, .INDEX, .KEY, .FULLTEXT, .SPATIAL]

/-- A name as it is printed, as a token in the place of another. -/
def nameAt (name : Ident) (place : Option Located) : Option Located :=
  place.map fun found => ⟨.word ⟨name.print, none, none⟩, found.position⟩

/-- A constraint on a table, and whether there was one. -/
def tableConstraint (inner : Inner) : Parser Bool := do
  let constraintName ← given (keyword .CONSTRAINT) ident
  let start ← peekLocated
  match ← oneOf constraintWords with
  | some .FOREIGN => foreignConstraint
  | some .CHECK =>
    let _ ← inner.parenthesizedExpr
  | some .INDEX | some .KEY => indexConstraint
  | some .FULLTEXT | some .SPATIAL =>
    match constraintName with
    | none => textIndexConstraint
    | some name =>
      expectedAt "FULLTEXT or SPATIAL option without constraint name" (nameAt name start)
  | some _ => uniqueConstraint
  | none =>
    if constraintName.isSome then
      expectedAt "PRIMARY, UNIQUE, FOREIGN, or CHECK" (← next)
    return false
  return true

/-- Definitions with commas between them, up to a closing parenthesis. A comma may stand in front
of it. -/
def definitionList (definition : Parser Unit) (what : String) : Parser Unit := do
  loop () fun _ => do
    if ← symbol .rightParen then return none
    definition
    let separated ← symbol .comma
    unless separated || (← atSymbol .rightParen) do expected what
    return some ()

/-- A column or a constraint. -/
def tableElement (inner : Inner) : Parser Unit := do
  if ← tableConstraint inner then return ()
  match ← peek with
  | some (.word _) => columnDefinition inner
  | _ => expected "column name or constraint definition"

/-- The columns and constraints of a table, if there are any. -/
def tableElements (inner : Inner) : Parser Unit := do
  if ← symbol .leftParen then
    definitionList (tableElement inner) "',' or ')' after column definition"

end SqlImage.Sql.Grammar
