/-
This file holds the parsers that other parsers of SQL start inside a construct.
Expressions hold queries, queries hold tables, and tables hold expressions, so
none of them can be read without the others. Each is read with the parsers of the
next level at hand, and what nests is always read one level further down.
-/

import SqlImage.Sql.Grammar.DataType

namespace SqlImage.Sql

/-- The parsers for what nests in a construct. -/
structure Inner where
  openType : Parser OpenType
  /-- An operand, which takes in the operators that bind tighter than a strength. -/
  operand : (strength : Nat) → Parser Expr
  /-- An interval, from its value on. -/
  interval : Parser Expr
  query : Parser Query
  /-- The body of a query, which takes in the set operations that bind tighter than a
  strength. -/
  body : (strength : Nat) → Parser Body
  tableFactor : Parser TableFactor
  statement : Parser Statement

namespace Inner

/-- The parsers where nothing may nest any more. -/
def none : Inner where
  openType := Parser.fail .tooDeep
  operand _ := Parser.fail .tooDeep
  interval := Parser.fail .tooDeep
  query := Parser.fail .tooDeep
  body _ := Parser.fail .tooDeep
  tableFactor := Parser.fail .tooDeep
  statement := Parser.fail .tooDeep

/-- An expression. -/
def expr (inner : Inner) : Parser Expr := Parser.deeper (inner.operand 0)

/-- Expressions with commas between them. -/
def exprs (inner : Inner) : Parser (List Expr) := Parser.commaSeparated inner.expr

/-- An expression in parentheses. -/
def parenthesizedExpr (inner : Inner) : Parser Expr := Parser.parenthesized inner.expr

/-- A data type. -/
def dataType (inner : Inner) : Parser DataType := Grammar.wholeType inner.openType

/-- One key of a sort. -/
def orderItem (inner : Inner) : Parser OrderItem := do
  let expr ← inner.expr
  let direction ← Parser.oneOf [.ASC, .DESC]
  let nullsFirst ← do
    if ← Parser.keywords [.NULLS, .FIRST] then pure (some true)
    else if ← Parser.keywords [.NULLS, .LAST] then pure (some false)
    else pure Option.none
  return ⟨expr, direction.map (· = .ASC), nullsFirst⟩

/-- The keys of a sort. -/
def orderItems (inner : Inner) : Parser (List OrderItem) := Parser.commaSeparated inner.orderItem

/-- The keys of a sort behind `ORDER BY`, none if it does not stand here. -/
def orderBy (inner : Inner) : Parser (List OrderItem) := do
  if ← Parser.keywords [.ORDER, .BY] then inner.orderItems else return []

end Inner

/-! ### Phrases -/

/-- Pieces of a phrase with commas between them. -/
def commaPieces : List Piece → List Piece
  | [] => []
  | [piece] => [piece]
  | piece :: rest => piece :: .text ", " :: commaPieces rest

/-- Expressions in a phrase, with commas between them. -/
def exprPieces (exprs : List Expr) : List Piece := commaPieces (exprs.map .expr)

/-- The keys of a sort in a phrase, with commas between them. -/
def orderPieces (items : List OrderItem) : List Piece := commaPieces (items.map .order)

/-- Arguments in a phrase, with commas between them. -/
def argumentPieces (arguments : List Argument) : List Piece :=
  commaPieces (arguments.map .argument)

/-- A part of a phrase between two words, nothing if it is absent. -/
def optionalPieces {α : Type} (value : Option α) (pieces : α → List Piece) : List Piece :=
  (value.map pieces).getD []

end SqlImage.Sql
