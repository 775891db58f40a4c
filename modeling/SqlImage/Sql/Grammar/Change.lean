/-
This file reads the statements that change rows. Two of them give rows as well and
may stand in place of a query, so they are kept as phrases; of the others nothing
is kept.
-/

import SqlImage.Sql.Grammar.Query

namespace SqlImage.Sql.Grammar

open SqlImage.Sql.Parser

/-! ### Assignments -/

/-- The words up to an equals sign or the end. Other tokens among them are skipped. -/
def wordsToEqual : Parser (List Ident) := do
  let found ← loop [] fun found => do
    match ← peek with
    | none => return none
    | some (.symbol .equal) => return none
    | some (.word word) =>
      let _ ← next
      return some (identOfWord word :: found)
    | some _ =>
      let _ ← next
      return some found
  return found.reverse

/-- A column and its new value. -/
def assignment (inner : Inner) : Parser (List Piece) := do
  let column ← wordsToEqual
  expectSymbol .equal
  return [.text (printName column ++ " = "), .expr (← inner.expr)]

/-- Columns and their new values as a phrase. -/
def assignments (inner : Inner) : Parser (List Piece) := do
  return [Piece.text ", "].intercalate (← commaSeparated (assignment inner))

/-- A condition as a phrase, empty if there is none. -/
def whereClause (inner : Inner) : Parser (List Piece) := do
  unless ← keyword .WHERE do return []
  return [.text " WHERE ", .expr (← inner.expr)]

/-- What is given back of the changed rows as a phrase, empty if that is nothing. -/
def returning (inner : Inner) : Parser (List Piece) := do
  unless ← keyword .RETURNING do return []
  let items ← commaSeparated (selectItem inner)
  return [.text " RETURNING "] ++ commaPieces (items.map .item)

/-! ### INSERT -/

/-- The format of a file. -/
def fileFormat : Parser String := do
  let found ← next
  match (found.map Located.token).bind Token.keyword? with
  | some word =>
    if word ∈ [Keyword.AVRO, .JSONFILE, .ORC, .PARQUET, .RCFILE, .SEQUENCEFILE, .TEXTFILE] then
      return word.spelling
    expectedAt "fileformat" found
  | none => expectedAt "fileformat" found

/-- Rows written to a directory, behind the word that says so. -/
def intoDirectory (inner : Inner) (overwrite isLocal : Bool) : Parser (List Piece) := do
  let path ← literalText
  let format ← given (keywords [.STORED, .AS]) fileFormat
  let query ← inner.query
  return [
    .text ("INSERT" ++ (if overwrite then " OVERWRITE" else "") ++
      (if isLocal then " LOCAL" else "") ++ " DIRECTORY '" ++ path ++ "'" ++
      (format.map (" STORED AS " ++ ·)).getD "" ++ " "),
    .query query]

/-- What becomes of a row that is there already, behind `ON CONFLICT`. -/
def onConflict (inner : Inner) : Parser (List Piece) := do
  let target ← do
    if ← keywords [.ON, .CONSTRAINT] then pure (" ON CONSTRAINT " ++ printName (← name))
    else if ← atSymbol .leftParen then pure ("(" ++ printIdents (← columnList) ++ ")")
    else pure ""
  expectKeyword .DO
  if ← keyword .NOTHING then return [.text (" ON CONFLICT" ++ target ++ " DO NOTHING")]
  expectKeywords [.UPDATE, .SET]
  let changes ← assignments inner
  let condition ← whereClause inner
  return [.text (" ON CONFLICT" ++ target ++ " DO UPDATE SET ")] ++ changes ++ condition

/-- What becomes of a row that is there already, a phrase that is empty if that is not said. -/
def onInsert (inner : Inner) : Parser (List Piece) := do
  unless ← keyword .ON do return []
  if ← keyword .CONFLICT then return ← onConflict inner
  expectKeywords [.DUPLICATE, .KEY, .UPDATE]
  return [.text " ON DUPLICATE KEY UPDATE "] ++ (← assignments inner)

/-- The partition that rows go to as a phrase, empty if there is none. -/
def intoPartition (inner : Inner) : Parser (List Piece) := do
  unless ← keyword .PARTITION do return []
  let keys ← parenthesized inner.exprs
  return [.text "PARTITION ("] ++ exprPieces keys ++ [.text ") "]

/-- Names in parentheses as they stand in an insertion, nothing if there are none. -/
def printColumns : List Ident → String
  | [] => ""
  | columns => "(" ++ printIdents columns ++ ") "

/-- The columns and rows of an insertion. -/
def insertedRows (inner : Inner) : Parser (List Piece) := do
  if ← keywords [.DEFAULT, .VALUES] then return [.text "DEFAULT VALUES"]
  let columns ← optionalColumns
  let partition ← intoPartition inner
  let after ← optionalColumns
  let query ← inner.query
  return [.text (printColumns columns)] ++ partition ++
    [.text (printColumns after), .query query]

/-- An insertion behind its first word, and whether the rows go into a table. -/
def insert (inner : Inner) : Parser (Bool × List Piece) := do
  let priority ← oneOf [.LOW_PRIORITY, .DELAYED, .HIGH_PRIORITY]
  let ignore ← keyword .IGNORE
  let action ← oneOf [.INTO, .OVERWRITE]
  let isLocal ← keyword .LOCAL
  if ← keyword .DIRECTORY then
    return (false, ← intoDirectory inner (action = some .OVERWRITE) isLocal)
  let marked ← keyword .TABLE
  let table ← name
  let rows ← insertedRows inner
  let existing ← onInsert inner
  let result ← returning inner
  let start :=
    "INSERT" ++ (priority.map (" " ++ ·.spelling)).getD "" ++ (if ignore then " IGNORE" else "") ++
    (action.map (" " ++ ·.spelling)).getD "" ++ (if marked then " TABLE" else "") ++ " " ++
    printName table ++ " "
  return (true, [.text start] ++ rows ++ existing ++ result)

/-! ### UPDATE -/

/-- An update behind its first word. -/
def update (inner : Inner) : Parser (List Piece) := do
  let table ← fromItem inner
  expectKeyword .SET
  let changes ← assignments inner
  let source ← given (keyword .FROM) (fromItem inner)
  let condition ← whereClause inner
  let result ← returning inner
  return [.text "UPDATE ", .source table, .text " SET "] ++ changes ++
    optionalPieces source (fun source => [.text " FROM ", .source source]) ++ condition ++ result

/-! ### DELETE and MERGE -/

/-- A deletion behind its first word. -/
def delete (inner : Inner) : Parser Unit := do
  unless ← keyword .FROM do
    let _ ← commaSeparated name
    expectKeyword .FROM
  let _ ← commaSeparated (fromItem inner)
  let _ ← given (keyword .USING) (commaSeparated (fromItem inner))
  let _ ← whereClause inner
  let _ ← returning inner
  let _ ← inner.orderBy
  if ← keyword .LIMIT then
    unless ← keyword .ALL do
      let _ ← inner.expr

/-- One case of a merge. -/
def mergeCase (inner : Inner) : Parser Unit := do
  expectKeyword .WHEN
  let missing ← keyword .NOT
  expectKeyword .MATCHED
  let _ ← given (keyword .AND) inner.expr
  expectKeyword .THEN
  match ← oneOf [.UPDATE, .INSERT, .DELETE] with
  | some .UPDATE =>
    if missing then failWith "UPDATE in NOT MATCHED merge clause"
    expectKeyword .SET
    let _ ← assignments inner
  | some .DELETE => if missing then failWith "DELETE in NOT MATCHED merge clause"
  | some _ =>
    unless missing do failWith "INSERT in MATCHED merge clause"
    let _ ← optionalColumns
    expectKeyword .VALUES
    let _ ← valueRows inner
  | none => failWith "expected UPDATE, DELETE or INSERT in merge clause"

/-- A merge behind its first word. Its cases go on up to the end of the statement. -/
def merge (inner : Inner) : Parser Unit := do
  let _ ← keyword .INTO
  let _ ← tableFactor inner
  expectKeyword .USING
  let _ ← tableFactor inner
  expectKeyword .ON
  let _ ← inner.expr
  loop () fun _ => do
    match ← peek with
    | none | some (.symbol .semicolon) => return none
    | some _ => return some (← mergeCase inner)

/-! ### Queries -/

/-- A query. Behind named queries a statement that gives rows may stand. -/
def query (inner : Inner) : Parser Query := deeper do
  let tables ← withClause inner
  if ← keyword .INSERT then return statementQuery tables (← insert inner).2
  if ← keyword .UPDATE then return statementQuery tables (← update inner)
  plainQuery inner tables

end SqlImage.Sql.Grammar
