/-
This file reads what stands behind `FROM`: tables by name, queries and functions as
tables, parentheses around them, and joins. Parentheses around a single table
vanish; around joins they stay.
-/

import SqlImage.Sql.Grammar.Call

namespace SqlImage.Sql.Grammar

open SqlImage.Sql.Parser

/-! ### Joins -/

/-- The constraint of a join behind the joined table. -/
def joinConstraint (inner : Inner) (natural : Bool) : Parser JoinConstraint := do
  if natural then return .natural
  if ← keyword .ON then return .on (← inner.expr)
  if ← keyword .USING then return .using (← requiredColumns)
  return .unmarked

/-- The side that a join to the left or to the right keeps, behind its first word. -/
def outerSide (isLeft : Bool) : Parser JoinSide := do
  let choose (onLeft onRight : JoinSide) : JoinSide := if isLeft then onLeft else onRight
  match ← oneOf [.OUTER, .SEMI, .ANTI, .JOIN] with
  | some .JOIN => return choose .left .right
  | some .OUTER =>
    expectKeyword .JOIN
    return choose .left .right
  | some .SEMI =>
    expectKeyword .JOIN
    return choose .leftSemi .rightSemi
  | some _ =>
    expectKeyword .JOIN
    return choose .leftAnti .rightAnti
  | none =>
    failWith ("expected OUTER, SEMI, ANTI or JOIN after " ++ if isLeft then "LEFT" else "RIGHT")

/-- The side that a join keeps, if a join is next. -/
def joinSide? (natural : Bool) : Parser (Option JoinSide) := do
  match (← peek).bind Token.keyword? with
  | some .INNER | some .JOIN =>
    let _ ← keyword .INNER
    expectKeyword .JOIN
    return some .inner
  | some .LEFT =>
    let _ ← next
    return some (← outerSide true)
  | some .RIGHT =>
    let _ ← next
    return some (← outerSide false)
  | some .FULL =>
    let _ ← next
    let _ ← keyword .OUTER
    expectKeyword .JOIN
    return some .full
  | some .OUTER => expected "LEFT, RIGHT, or FULL"
  | _ => if natural then expected "a join type after NATURAL" else return none

/-- A joined table, if one is next. -/
def join? (inner : Inner) : Parser (Option Join) := do
  if ← keyword .CROSS then
    if ← keyword .JOIN then return some ⟨.cross, ← inner.tableFactor⟩
    if ← keyword .APPLY then return some ⟨.crossApply, ← inner.tableFactor⟩
    expected "JOIN or APPLY after CROSS"
  if ← keyword .OUTER then
    expectKeyword .APPLY
    return some ⟨.outerApply, ← inner.tableFactor⟩
  let natural ← keyword .NATURAL
  match ← joinSide? natural with
  | none => return none
  | some side =>
    let factor ← inner.tableFactor
    return some ⟨.constrained side (← joinConstraint inner natural), factor⟩

/-- A table and what is joined to it. -/
def fromItem (inner : Inner) : Parser FromItem := do
  let factor ← inner.tableFactor
  return ⟨factor, ← many (join? inner)⟩

/-! ### Derived tables -/

/-- A query as a table, behind its opening parenthesis. -/
def derivedTable (inner : Inner) (lateral : Bool) : Parser TableFactor := do
  let query ← inner.query
  expectSymbol .rightParen
  return .derived lateral query (← tableAlias)

/-- A query or a function that may look at the tables before it. -/
def lateralTable (inner : Inner) : Parser TableFactor := do
  if ← symbol .leftParen then return ← derivedTable inner true
  let function ← name
  expectSymbol .leftParen
  let arguments ← arguments inner
  return .phrase (
    [.text ("LATERAL " ++ printName function ++ "(")] ++ argumentPieces arguments ++
    [.text ")"]) (← tableAlias) []

/-- The alias of anything that stands for a table. -/
def factorAlias : TableFactor → Option TableAlias
  | .table _ _ _ label _ => label
  | .derived _ _ label => label
  | .nested _ label => label
  | .phrase _ label _ => label

/-- A table under another alias. -/
def withAlias (label : TableAlias) : TableFactor → TableFactor
  | .table name partitions arguments _ hints => .table name partitions arguments (some label) hints
  | .derived lateral query _ => .derived lateral query (some label)
  | .nested inner _ => .nested inner (some label)
  | .phrase before _ after => .phrase before (some label) after

/-- Whether parentheses around a table and its joins stay. -/
def keepsParentheses (item : FromItem) : Bool :=
  match item with
  | ⟨_, _ :: _⟩ => true
  | ⟨.nested .., []⟩ => true
  | ⟨_, []⟩ => false

/-- A table or joins in parentheses, behind the opening one. A table without joins gets the
alias that stands outside unless it has one already. -/
def nestedTable (inner : Inner) : Parser TableFactor := do
  let item ← fromItem inner
  expectSymbol .rightParen
  let label ← tableAlias
  if keepsParentheses item then return .nested item label
  match label, factorAlias item.factor with
  | none, _ => return item.factor
  | some outer, none => return withAlias outer item.factor
  | some _, some existing => failWith ("duplicate alias " ++ existing.print)

/-! ### Tables made of values -/

/-- The elements of arrays as a table. The word before a missing `OFFSET` is taken all the
same. -/
def unnested (inner : Inner) : Parser TableFactor := do
  let arrays ← parenthesized inner.exprs
  let label ← tableAlias
  let hasOffset ← tolerate (expectKeywords [.WITH, .OFFSET])
  let offsetAlias ← do
    if hasOffset.isSome then aliasUnless reservedForColumns else pure none
  let after :=
    (if hasOffset.isSome then " WITH OFFSET" else "") ++
    (offsetAlias.map (" AS " ++ ·.print)).getD ""
  return .phrase ([.text "UNNEST("] ++ exprPieces arrays ++ [.text ")"]) label [.text after]

/-- What a column of a document table holds where there is no value. -/
def columnFallback : Parser (Option (List Piece)) := do
  match ← oneOf [.NULL, .ERROR, .DEFAULT] with
  | none => return none
  | some .DEFAULT =>
    let value ← valuePiece
    expectKeyword .ON
    return some [.text " DEFAULT ", value]
  | some word =>
    expectKeyword .ON
    return some [.text (" " ++ word.spelling)]

/-- One column of a document table. -/
def documentColumn (inner : Inner) : Parser (List Piece) := do
  let column ← ident
  let dataType ← inner.dataType
  let checksPath ← keyword .EXISTS
  expectKeyword .PATH
  let path ← valuePiece
  let (onEmpty, onError) ← loop (([] : List Piece), ([] : List Piece)) fun (onEmpty, onError) => do
    match ← columnFallback with
    | none => return none
    | some fallback =>
      if ← keyword .EMPTY then return some (fallback ++ [.text " ON EMPTY"], onError)
      expectKeyword .ERROR
      return some (onEmpty, fallback ++ [.text " ON ERROR"])
  let mark := if checksPath then " EXISTS PATH " else " PATH "
  return [.text (column.print ++ " " ++ dataType.written ++ mark), path] ++ onEmpty ++ onError

/-- A document as a table. -/
def documentTable (inner : Inner) : Parser TableFactor := do
  expectSymbol .leftParen
  let document ← inner.expr
  expectSymbol .comma
  let path ← valuePiece
  expectKeyword .COLUMNS
  let columns ← parenthesized (commaSeparated (documentColumn inner))
  expectSymbol .rightParen
  return .phrase (
    [.text "JSON_TABLE(", .expr document, .text ", ", path, .text " COLUMNS("] ++
    [Piece.text ", "].intercalate columns ++ [.text "))"]) (← tableAlias) []

/-! ### Tables by name -/

/-- Rows of a table turned into columns. -/
def pivoted (inner : Inner) (table : TableFactor) : Parser TableFactor := do
  expectSymbol .leftParen
  match (← next).map Located.token with
  | some (.word word) =>
    let aggregate ← call inner [⟨word.value, none⟩]
    expectKeyword .FOR
    let column ← name
    expectKeyword .IN
    let values ← parenthesized (commaSeparated valuePiece)
    expectSymbol .rightParen
    return .phrase (
      [.source ⟨table, []⟩, .text " PIVOT(", .expr (.call aggregate),
        .text (" FOR " ++ printName column ++ " IN (")] ++ commaPieces values ++ [.text "))"])
      (← tableAlias) []
  | _ => expected "an aggregate function name"

/-- Columns of a table turned into rows. -/
def unpivoted (table : TableFactor) : Parser TableFactor := do
  expectSymbol .leftParen
  let value ← ident
  expectKeyword .FOR
  let column ← ident
  expectKeyword .IN
  let columns ← requiredColumns
  expectSymbol .rightParen
  return .phrase [
    .source ⟨table, []⟩,
    .text (" UNPIVOT(" ++ value.print ++ " FOR " ++ column.print ++ " IN (" ++
      printIdents columns ++ "))")] (← tableAlias) []

/-- A table, which takes in the turns of rows and columns behind it. -/
def turned (inner : Inner) (table : TableFactor) : Parser TableFactor :=
  loop table fun table => do
    if ← keyword .PIVOT then return some (← pivoted inner table)
    if ← keyword .UNPIVOT then return some (← unpivoted table)
    return none

/-- The hints behind a table. Without parentheses the word before them belongs to what
follows. -/
def tableHints (inner : Inner) : Parser (List Expr) := do
  let hints ← orRewind do
    unless ← keyword .WITH do return none
    unless ← atSymbol .leftParen do return none
    return some (← parenthesized inner.exprs)
  return hints.getD []

/-- A table by its name, or a function as a table. -/
def namedTable (inner : Inner) : Parser TableFactor := do
  let table ← name
  let partitions ← given (keyword .PARTITION) columnList
  let arguments ← given (symbol .leftParen) (arguments inner)
  let label ← tableAlias
  let hints ← tableHints inner
  turned inner (.table table (partitions.getD []) arguments label hints)

/-- Anything that stands for a table. What begins with a parenthesis is read as a query if it can
be, whatever is wrong with it otherwise. -/
def tableFactor (inner : Inner) : Parser TableFactor := do
  if ← keyword .LATERAL then lateralTable inner
  else if ← keyword .TABLE then
    let table ← inner.parenthesizedExpr
    return .phrase [.text "TABLE(", .expr table, .text ")"] (← tableAlias) []
  else if ← symbol .leftParen then
    match ← attempt (derivedTable inner false) with
    | some table => turned inner table
    | none => nestedTable inner
  else if ← keyword .UNNEST then unnested inner
  else if ← keyword .JSON_TABLE then documentTable inner
  else namedTable inner

end SqlImage.Sql.Grammar
