/-
This file reads queries: selects with their clauses, set operations between them,
named queries in front and the clauses behind. A statement that gives rows may
stand in place of a body, so it is read with the parsers for what nests.
-/

import SqlImage.Sql.Grammar.Table

namespace SqlImage.Sql.Grammar

open SqlImage.Sql.Parser

/-! ### Select lists -/

/-- A name with a new one. -/
def renamedColumn : Parser String := do
  let old ← ident
  expectKeyword .AS
  return old.print ++ " AS " ++ (← ident).print

/-- An expression in place of a column. -/
def replacedColumn (inner : Inner) : Parser (List Piece) := do
  let value ← inner.expr
  let marked ← keyword .AS
  let column ← ident
  return [.expr value, .text ((if marked then " AS " else " ") ++ column.print)]

/-- Columns that a star leaves out behind `EXCLUDE`. -/
def excludedColumns : Parser (List Piece) := do
  unless ← keyword .EXCLUDE do return []
  if ← atSymbol .leftParen then
    return [.text (" EXCLUDE (" ++ printIdents (← columnList) ++ ")")]
  return [.text (" EXCLUDE " ++ (← ident).print)]

/-- Columns that a star leaves out behind `EXCEPT`. -/
def exceptedColumns : Parser (List Piece) := do
  unless ← keyword .EXCEPT do return []
  let columns ← if ← atSymbol .leftParen then columnList else pure [← ident]
  return [.text (" EXCEPT (" ++ printIdents columns ++ ")")]

/-- Columns of a star with new names. -/
def renamedColumns : Parser (List Piece) := do
  unless ← keyword .RENAME do return []
  if ← atSymbol .leftParen then
    let columns ← parenthesized (commaSeparated renamedColumn)
    return [.text (" RENAME (" ++ separated ", " columns ++ ")")]
  return [.text (" RENAME " ++ (← renamedColumn))]

/-- Columns of a star with new values. -/
def replacedColumns (inner : Inner) : Parser (List Piece) := do
  unless ← keyword .REPLACE do return []
  unless ← atSymbol .leftParen do expectedAt "( after REPLACE but" (← next)
  let columns ← parenthesized (commaSeparated (replacedColumn inner))
  return [.text " REPLACE ("] ++ [Piece.text ", "].intercalate columns ++ [.text ")"]

/-- The options behind a star. -/
def starOptions (inner : Inner) : Parser (List Piece) := do
  let excluded ← excludedColumns
  let excepted ← exceptedColumns
  let renamed ← renamedColumns
  let replaced ← replacedColumns inner
  return excluded ++ excepted ++ renamed ++ replaced

/-- One item of a select list. -/
def selectItem (inner : Inner) : Parser SelectItem := do
  match ← exprOrStar inner with
  | .expr expr => return .expr expr (← aliasUnless reservedForColumns)
  | .star => return .star (← starOptions inner)
  | .qualifiedStar path => return .qualifiedStar path (← starOptions inner)

/-! ### Clauses of a select -/

/-- How many rows are taken from the top, a phrase that is empty if that is not said. -/
def top (inner : Inner) : Parser (List Piece) := do
  unless ← keyword .TOP do return []
  let quantity ← do
    if ← atSymbol .leftParen then
      pure [.text "(", .expr (← inner.parenthesizedExpr), .text ")"]
    else pure [Piece.text (toString (← wholeNumber))]
  let percent ← keyword .PERCENT
  let ties ← keywords [.WITH, .TIES]
  return [.text " TOP "] ++ quantity ++
    [.text ((if percent then " PERCENT" else "") ++ if ties then " WITH TIES" else "")]

/-- The table that the rows go into, a phrase that is empty if there is none. -/
def into : Parser (List Piece) := do
  unless ← keyword .INTO do return []
  let temporary ← oneOf [.TEMP, .TEMPORARY]
  let unlogged ← keyword .UNLOGGED
  let table ← keyword .TABLE
  let target ← name
  return [.text (" INTO" ++ (if temporary.isSome then " TEMPORARY" else "") ++
    (if unlogged then " UNLOGGED" else "") ++ (if table then " TABLE" else "") ++ " " ++
    printName target)]

/-- The words that end the column names of a lateral view. -/
def reservedForViews : List Keyword := [.WHERE, .GROUP, .CLUSTER, .HAVING, .LATERAL]

/-- A lateral view, if one is next. -/
def lateralView (inner : Inner) : Parser (Option (List Piece)) := do
  unless ← keywords [.LATERAL, .VIEW] do return none
  let outer ← keyword .OUTER
  let view ← inner.expr
  let viewName ← name
  let columns ← commaSeparated (aliasUnless reservedForViews)
  let suffix :=
    match columns.filterMap id with
    | [] => ""
    | columns => " AS " ++ printIdents columns
  return some [
    .text (if outer then " LATERAL VIEW OUTER " else " LATERAL VIEW "), .expr view,
    .text (" " ++ printName viewName ++ suffix)]

/-- Expressions in parentheses, of which there may be none. -/
def groupingTuple (inner : Inner) : Parser (List Expr) := do
  expectSymbol .leftParen
  if ← symbol .rightParen then return []
  let members ← inner.exprs
  expectSymbol .rightParen
  return members

/-- A set of a grouping as a phrase. A single member may stand without parentheses. -/
def groupingSet (inner : Inner) (lifts : Bool) : Parser (List Piece) := do
  let members ← do
    if lifts && !(← atSymbol .leftParen) then pure [← inner.expr] else groupingTuple inner
  match lifts, members with
  | true, [single] => return [.expr single]
  | _, members => return [.text "("] ++ exprPieces members ++ [.text ")"]

/-- Several sets of a grouping behind its name. -/
def groupingSets (inner : Inner) (written : String) (lifts : Bool) : Parser Expr := do
  let sets ← parenthesized (commaSeparated (groupingSet inner lifts))
  return .phrase (
    [.text (written ++ " (")] ++ [Piece.text ", "].intercalate sets ++ [.text ")"])

/-- One key of a grouping. -/
def groupingKey (inner : Inner) : Parser Expr := do
  if ← keywords [.GROUPING, .SETS] then groupingSets inner "GROUPING SETS" false
  else if ← keyword .CUBE then groupingSets inner "CUBE" true
  else if ← keyword .ROLLUP then groupingSets inner "ROLLUP" true
  else inner.expr

/-- What the rows are grouped by. -/
def grouping (inner : Inner) : Parser Grouping := do
  unless ← keywords [.GROUP, .BY] do return .keys []
  if ← keyword .ALL then return .all
  return .keys (← commaSeparated (groupingKey inner))

/-- Expressions behind a word and `BY` as a phrase, empty if the words do not stand here. -/
def keysBy (inner : Inner) (word : Keyword) : Parser (List Piece) := do
  unless ← keywords [word, .BY] do return []
  return [.text (" " ++ word.spelling ++ " BY ")] ++ exprPieces (← inner.exprs)

/-- A window with its name. -/
def namedWindow (inner : Inner) : Parser (List Piece) := do
  let windowName ← ident
  expectKeyword .AS
  expectSymbol .leftParen
  let spec ← windowSpec inner
  return [.text (windowName.print ++ " AS (")] ++ spec ++ [.text ")"]

/-- Windows with their names as a phrase, empty if there are none. -/
def namedWindows (inner : Inner) : Parser (List Piece) := do
  unless ← keyword .WINDOW do return []
  return [.text " WINDOW "] ++
    [Piece.text ", "].intercalate (← commaSeparated (namedWindow inner))

/-- A select behind its first word. -/
def select (inner : Inner) : Parser Select := do
  let distinct ← distinct inner
  let top ← top inner
  let items ← commaSeparated (selectItem inner)
  let into ← into
  let tables ← given (keyword .FROM) (commaSeparated (fromItem inner))
  let lateralViews ← many (lateralView inner)
  let selection ← given (keyword .WHERE) inner.expr
  let grouping ← grouping inner
  let clusterBy ← keysBy inner .CLUSTER
  let distributeBy ← keysBy inner .DISTRIBUTE
  let sortBy ← keysBy inner .SORT
  let having ← given (keyword .HAVING) inner.expr
  let windows ← namedWindows inner
  let qualify ← given (keyword .QUALIFY) inner.expr
  return {
    distinct, top, items, into
    tables := tables.getD []
    lateralViews := lateralViews.flatten
    selection, grouping
    distribution := clusterBy ++ distributeBy ++ sortBy
    having, windows
    qualify := optionalPieces qualify fun condition => [.text " QUALIFY ", .expr condition] }

/-! ### Bodies -/

/-- One row of values, and whether the word before it was written. -/
def valuesRow (inner : Inner) : Parser (Bool × List Piece) := do
  let marked ← keyword .ROW
  let members ← parenthesized inner.exprs
  return (marked, [.text "("] ++ exprPieces members ++ [.text ")"])

/-- Rows of values. If one of them has the word before it, all are printed with it. -/
def valueRows (inner : Inner) : Parser (List Piece) := do
  let rows ← commaSeparated (valuesRow inner)
  let marked := rows.any (·.1)
  let pieces := rows.map fun (_, row) => if marked then .text "ROW" :: row else row
  return [.text "VALUES "] ++ [Piece.text ", "].intercalate pieces

/-- A table as a body. Three tokens are taken, however many belong to its name. -/
def wholeTable : Parser (List Piece) := do
  let first ← next
  let second ← next
  let third ← next
  let value (what : String) (found : Option Located) : Parser String :=
    match found.map Located.token with
    | some (.word word) => return word.value
    | _ => expectedAt what found
  if second.map Located.token = some (.symbol .period) then
    let schema ← value "Schema name" first
    let table ← value "Table name" third
    return [.text ("TABLE " ++ schema ++ "." ++ table)]
  return [.text ("TABLE " ++ (← value "Table name" first))]

/-- A body without set operations. -/
def bareBody (inner : Inner) : Parser Body := do
  if ← keyword .SELECT then return .select (← select inner)
  if ← symbol .leftParen then
    let query ← inner.query
    expectSymbol .rightParen
    return .query query
  if ← keyword .VALUES then return .values (← valueRows inner)
  if ← keyword .TABLE then return .phrase (← wholeTable)
  expected "SELECT, VALUES, or a subquery in the query body"

/-- The set operation that is next, and its strength. -/
def nextOperation : Parser (Option (Tree.SetKind × Nat)) := do
  match (← peek).bind Token.keyword? with
  | some .UNION => return some (.union, 10)
  | some .EXCEPT => return some (.except, 10)
  | some .INTERSECT => return some (.intersect, 20)
  | _ => return none

/-- The quantifier of a set operation. Only a union may match columns by their names. -/
def setQuantifier (operation : Tree.SetKind) : Parser SetQuantifier := do
  if operation = .union then
    if ← keywords [.DISTINCT, .BY, .NAME] then return .distinctByName
    if ← keywords [.BY, .NAME] then return .byName
    if ← keywords [.ALL, .BY, .NAME] then return .allByName
  if ← keyword .ALL then return .all
  if ← keyword .DISTINCT then return .distinct
  return .unmarked

/-- A body, which takes in the set operations behind it that bind tighter than a strength. -/
def body (inner : Inner) (strength : Nat) : Parser Body := do
  loop (← bareBody inner) fun left => do
    match ← nextOperation with
    | none => return none
    | some (operation, found) =>
      if found ≤ strength then return none
      let _ ← next
      let quantifier ← setQuantifier operation
      return some (.operation operation quantifier left (← inner.body found))

/-! ### Clauses of a query -/

/-- A named query in front of a query. -/
def namedQuery (inner : Inner) : Parser NamedQuery := do
  let queryName ← ident
  let marked ← keyword .AS
  let columns ← if marked then pure [] else optionalColumns
  unless marked do expectKeyword .AS
  let query ← parenthesized inner.query
  return ⟨⟨queryName, columns⟩, query, ← given (keyword .FROM) ident⟩

/-- The named queries in front of a query, if there are any. -/
def withClause (inner : Inner) : Parser (Option With) := do
  unless ← keyword .WITH do return none
  let recursive ← keyword .RECURSIVE
  return some ⟨recursive, ← commaSeparated (namedQuery inner)⟩

/-- How many rows are wanted and how many of the first are left out. -/
structure RowBounds where
  limit : Option Expr
  offset : Option (Expr × RowsWord)

/-- The word behind a number of rows. -/
def rowsWord : Parser RowsWord := do
  match ← oneOf [.ROW, .ROWS] with
  | none => return .unmarked
  | some word => return if word = .ROW then .row else .rows

/-- One round of looking for a limit and an offset. Of two numbers with a comma between them, the
first is the offset. -/
def boundsRound (inner : Inner) (bounds : RowBounds) : Parser RowBounds := do
  let limit ← do
    if bounds.limit.isNone then
      if ← keyword .LIMIT then
        if ← keyword .ALL then pure none else pure (some (← inner.expr))
      else pure none
    else pure bounds.limit
  let offset ← do
    if bounds.offset.isNone then
      given (keyword .OFFSET) do
        let value ← inner.expr
        return (value, ← rowsWord)
    else pure bounds.offset
  match limit, offset with
  | some first, none =>
    if ← symbol .comma then return ⟨some (← inner.expr), some (first, .unmarked)⟩
    return ⟨limit, offset⟩
  | _, _ => return ⟨limit, offset⟩

/-- A value as it stands in a clause that counts rows. -/
def rowCount : Parser (List Piece) := do
  return [.text " ", ← valuePiece]

/-- How many rows are fetched, a phrase that is empty if that is not said. -/
def fetch : Parser (List Piece) := do
  unless ← keyword .FETCH do return []
  let _ ← expectOneOf [.FIRST, .NEXT]
  let quantity ← do
    if (← oneOf [.ROW, .ROWS]).isSome then pure []
    else
      let quantity ← rowCount
      let percent ← keyword .PERCENT
      let _ ← expectOneOf [.ROW, .ROWS]
      pure (quantity ++ [.text (if percent then " PERCENT" else "")])
  let ending ← do
    if ← keyword .ONLY then pure " ROWS ONLY"
    else if ← keywords [.WITH, .TIES] then pure " ROWS WITH TIES"
    else expected "one of ONLY or WITH TIES"
  return [.text " FETCH FIRST"] ++ quantity ++ [.text ending]

/-- How rows are locked, behind the first word. -/
def lock : Parser String := do
  let sort ← expectOneOf [.UPDATE, .SHARE]
  let table ← given (keyword .OF) name
  let wait ← do
    if ← keyword .NOWAIT then pure " NOWAIT"
    else if ← keywords [.SKIP, .LOCKED] then pure " SKIP LOCKED"
    else pure ""
  return " FOR " ++ sort.spelling ++ (table.map (" OF " ++ printName ·)).getD "" ++ wait

/-- A text in parentheses and quotes. -/
def quotedName : Parser String := do
  return "('" ++ (← parenthesized literalText) ++ "')"

/-- The name of an element, if there is one. -/
def elementName : Parser String := do
  if ← atSymbol .leftParen then quotedName else return ""

/-- The options of a document form, each behind a comma. The first to give its text is printed
first, whatever was written first. -/
def documentOptions (option : List (Nat × String) → Parser (List (Nat × String))) :
    Parser String := do
  let found ← loop ([] : List (Nat × String)) fun found => do
    unless ← symbol .comma do return none
    return some (← option found)
  let written (rank : Nat) : String := (found.lookup rank).getD ""
  return String.join ((List.range 4).map written)

/-- Rows given as one document, behind the name of its form. -/
def markupForm : Parser String := do
  let form ← do
    match ← oneOf [.RAW, .AUTO, .EXPLICIT, .PATH] with
    | some .RAW => pure ("RAW" ++ (← elementName))
    | some .PATH => pure ("PATH" ++ (← elementName))
    | some word => pure word.spelling
    | none => failWith "Expected FOR XML [RAW | AUTO | EXPLICIT | PATH ]"
  let options ← documentOptions fun found => do
    if ← keyword .ELEMENTS then return (3, ", ELEMENTS") :: found
    if ← keyword .BINARY then
      expectKeyword .BASE64
      return (0, ", BINARY BASE64") :: found
    if ← keyword .ROOT then return (2, ", ROOT" ++ (← quotedName)) :: found
    if ← keyword .TYPE then return (1, ", TYPE") :: found
    return found
  return " FOR XML " ++ form ++ options

/-- Rows given as one list of records, behind the name of the form. -/
def recordForm : Parser String := do
  let form ← do
    match ← oneOf [.AUTO, .PATH] with
    | some word => pure word.spelling
    | none => failWith "Expected FOR JSON [AUTO | PATH ]"
  let options ← documentOptions fun found => do
    if ← keyword .ROOT then return (0, ", ROOT" ++ (← quotedName)) :: found
    if ← keyword .INCLUDE_NULL_VALUES then return (1, ", INCLUDE_NULL_VALUES") :: found
    if ← keyword .WITHOUT_ARRAY_WRAPPER then return (2, ", WITHOUT_ARRAY_WRAPPER") :: found
    return found
  return " FOR JSON " ++ form ++ options

/-- The clauses that lock rows and that shape the result, as they are printed. The clause that
shapes the result is the last one. -/
def locks : Parser (List Piece) := do
  let (written, _) ← loop (([] : List String), false) fun (written, finished) => do
    if finished then return none
    unless ← keyword .FOR do return none
    if ← keyword .XML then return some (written ++ [← markupForm], true)
    if ← keyword .JSON then return some (written ++ [← recordForm], true)
    if ← keyword .BROWSE then return some (written ++ [" FOR BROWSE"], true)
    return some (written ++ [← lock], false)
  return written.map .text

/-- A body with the clauses behind it. -/
def plainQuery (inner : Inner) (withClause : Option With) : Parser Query := do
  let queryBody ← body inner 0
  let order ← inner.orderBy
  let bounds ← boundsRound inner ⟨none, none⟩
  let bounds ← boundsRound inner bounds
  let limitBy ← given (keyword .BY) inner.exprs
  let fetch ← fetch
  let locks ← locks
  return {
    withClause
    body := queryBody
    order
    limit := bounds.limit
    limitBy := limitBy.getD []
    offset := bounds.offset.map Prod.fst
    offsetRows := (bounds.offset.map Prod.snd).getD .unmarked
    fetch, locks }

/-- A statement that gives rows as a query. -/
def statementQuery (withClause : Option With) (pieces : List Piece) : Query where
  withClause
  body := .phrase pieces
  order := []
  limit := none
  limitBy := []
  offset := none
  offsetRows := .unmarked
  fetch := []
  locks := []

end SqlImage.Sql.Grammar
