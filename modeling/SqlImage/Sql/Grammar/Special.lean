/-
This file reads the functions that have a grammar of their own: casts, pieces of
strings and dates, aggregates with clauses inside, searches. All but a few become
phrases, because no result can hold them.
-/

import SqlImage.Sql.Grammar.Call

namespace SqlImage.Sql.Grammar

open SqlImage.Sql.Parser

/-! ### Conversions -/

/-- The format of a cast, if there is one. -/
def castFormat : Parser (List Piece) := do
  unless ← keyword .FORMAT do return []
  let value ← valuePiece
  if ← keywords [.AT, .TIME, .ZONE] then
    return [.text " FORMAT ", value, .text " AT TIME ZONE ", ← valuePiece]
  return [.text " FORMAT ", value]

/-- A cast behind its first word, which tells how failures are met. -/
def cast (inner : Inner) (word : Keyword) : Parser Expr := do
  expectSymbol .leftParen
  let value ← inner.expr
  expectKeyword .AS
  let dataType ← inner.dataType
  let format ← castFormat
  expectSymbol .rightParen
  return .phrase (
    [.text (word.spelling ++ "("), .expr value, .text (" AS " ++ dataType.written)] ++ format ++
    [.text ")"])

/-- A cast by the operator with two colons. -/
def colonCast (inner : Inner) (value : Expr) : Parser Expr := do
  let dataType ← inner.dataType
  return .phrase [.text "CAST(", .expr value, .text (" AS " ++ dataType.written ++ ")")]

/-- A conversion to another type or character set. -/
def convert (inner : Inner) : Parser Expr := do
  expectSymbol .leftParen
  let value ← inner.expr
  if ← keyword .USING then
    let charset ← name
    expectSymbol .rightParen
    return .phrase [
      .text "CONVERT(", .expr value, .text (" USING " ++ printName charset ++ ")")]
  expectSymbol .comma
  let dataType ← inner.dataType
  let charset ← given (keywords [.CHARACTER, .SET]) name
  expectSymbol .rightParen
  let suffix := (charset.map (" CHARACTER SET " ++ printName ·)).getD ""
  return .phrase [
    .text "CONVERT(", .expr value, .text (", " ++ dataType.written ++ suffix ++ ")")]

/-! ### Dates and numbers -/

/-- A field of a date. -/
def extract (inner : Inner) : Parser Expr := do
  expectSymbol .leftParen
  let field ← timeField
  expectKeyword .FROM
  let operand ← inner.expr
  expectSymbol .rightParen
  return .extract field operand

/-- A number rounded up or down, or a date cut at a field. -/
def round (inner : Inner) (word : Keyword) : Parser Expr := do
  expectSymbol .leftParen
  let value ← inner.expr
  let field ← given (keyword .TO) timeField
  expectSymbol .rightParen
  let suffix := (field.map (" TO " ++ ·.spelling)).getD ""
  return .phrase [.text (word.spelling ++ "("), .expr value, .text (suffix ++ ")")]

/-! ### Strings -/

/-- The place of one text in another. The first one ends before `IN`. -/
def position (inner : Inner) : Parser Expr := do
  expectSymbol .leftParen
  let part ← inner.operand 20
  unless ← keyword .IN do failAt "Position function must include IN keyword" (← peekLocated)
  let whole ← inner.expr
  expectSymbol .rightParen
  return .phrase [.text "POSITION(", .expr part, .text " IN ", .expr whole, .text ")"]

/-- A part of a text. Commas stand for the words between the operands. -/
def substring (inner : Inner) : Parser Expr := do
  let marked (word : Keyword) : Parser Bool := do
    if ← keyword word then return true else symbol .comma
  expectSymbol .leftParen
  let whole ← inner.expr
  let start ← given (marked .FROM) inner.expr
  let length ← given (marked .FOR) inner.expr
  expectSymbol .rightParen
  return .phrase (
    [.text "SUBSTRING(", .expr whole] ++
    optionalPieces start (fun expr => [.text " FROM ", .expr expr]) ++
    optionalPieces length (fun expr => [.text " FOR ", .expr expr]) ++ [.text ")"])

/-- A text with a part of it replaced. -/
def overlay (inner : Inner) : Parser Expr := do
  expectSymbol .leftParen
  let whole ← inner.expr
  expectKeyword .PLACING
  let part ← inner.expr
  expectKeyword .FROM
  let start ← inner.expr
  let length ← given (keyword .FOR) inner.expr
  expectSymbol .rightParen
  return .phrase (
    [.text "OVERLAY(", .expr whole, .text " PLACING ", .expr part, .text " FROM ",
      .expr start] ++
    optionalPieces length (fun expr => [.text " FOR ", .expr expr]) ++ [.text ")"])

/-- A text without what surrounds it. The side is not printed together with a list of
characters. -/
def trim (inner : Inner) : Parser Expr := do
  expectSymbol .leftParen
  let side ← oneOf [.BOTH, .LEADING, .TRAILING]
  let mark := (side.map (·.spelling ++ " ")).getD ""
  let value ← inner.expr
  if ← keyword .FROM then
    let whole ← inner.expr
    expectSymbol .rightParen
    return .phrase [
      .text ("TRIM(" ++ mark), .expr value, .text " FROM ", .expr whole, .text ")"]
  if ← symbol .comma then
    let characters ← inner.exprs
    expectSymbol .rightParen
    return .phrase (
      [.text "TRIM(", .expr value, .text ", "] ++ exprPieces characters ++ [.text ")"])
  expectSymbol .rightParen
  return .phrase [.text ("TRIM(" ++ mark), .expr value, .text ")"]

/-! ### Aggregates -/

/-- What a joined text that is too long ends in. -/
def overflowFiller (inner : Inner) : Parser (List Piece) := do
  match ← peek with
  | some (.string style _) =>
    if style ∈ [StringStyle.plain, .escaped, .national, .hexadecimal] then
      return [.text " ", .expr (← inner.expr)]
    expected "either filler, WITH, or WITHOUT in LISTAGG"
  | token =>
    if token.any (isOneOf [.WITH, .WITHOUT]) then return []
    expected "either filler, WITH, or WITHOUT in LISTAGG"

/-- What happens to a joined text that is too long. -/
def listOverflow (inner : Inner) : Parser (List Piece) := do
  unless ← keywords [.ON, .OVERFLOW] do return []
  if ← keyword .ERROR then return [.text " ON OVERFLOW ERROR"]
  expectKeyword .TRUNCATE
  let filler ← overflowFiller inner
  match ← oneOf [.WITH, .WITHOUT] with
  | none => expected "either WITH or WITHOUT in LISTAGG"
  | some word =>
    expectKeyword .COUNT
    return [.text " ON OVERFLOW TRUNCATE"] ++ filler ++ [.text (" " ++ word.spelling ++ " COUNT")]

/-- Texts joined to one. -/
def listAggregate (inner : Inner) : Parser Expr := do
  expectSymbol .leftParen
  let distinct ← isDistinct inner
  let value ← inner.expr
  let separator ← given (symbol .comma) inner.expr
  let overflow ← listOverflow inner
  expectSymbol .rightParen
  let order ← given (keywords [.WITHIN, .GROUP]) do
    expectSymbol .leftParen
    expectKeywords [.ORDER, .BY]
    let order ← inner.orderItems
    expectSymbol .rightParen
    return order
  return .phrase (
    [.text (if distinct then "LISTAGG(DISTINCT " else "LISTAGG("), .expr value] ++
    optionalPieces separator (fun expr => [.text ", ", .expr expr]) ++ overflow ++ [.text ")"] ++
    optionalPieces order (fun order =>
      [.text " WITHIN GROUP (ORDER BY "] ++ orderPieces order ++ [.text ")"]))

/-- Values collected in an array. -/
def arrayAggregate (inner : Inner) : Parser Expr := do
  expectSymbol .leftParen
  let distinct ← keyword .DISTINCT
  let value ← inner.expr
  let order ← inner.orderBy
  let limit ← do
    if ← keyword .LIMIT then
      if ← keyword .ALL then pure none else pure (some (← inner.expr))
    else pure none
  expectSymbol .rightParen
  return .phrase (
    [.text (if distinct then "ARRAY_AGG(DISTINCT " else "ARRAY_AGG("), .expr value] ++
    (if order.isEmpty then [] else [.text " ORDER BY "] ++ orderPieces order) ++
    optionalPieces limit (fun expr => [.text " LIMIT ", .expr expr]) ++ [.text ")"])

/-! ### Searches -/

/-- How a full-text search reads its value. -/
def searchMode : Parser String := do
  if ← keywords [.IN, .NATURAL, .LANGUAGE, .MODE] then
    if ← keywords [.WITH, .QUERY, .EXPANSION] then
      return " IN NATURAL LANGUAGE MODE WITH QUERY EXPANSION"
    return " IN NATURAL LANGUAGE MODE"
  if ← keywords [.IN, .BOOLEAN, .MODE] then return " IN BOOLEAN MODE"
  if ← keywords [.WITH, .QUERY, .EXPANSION] then return " WITH QUERY EXPANSION"
  return ""

/-- A full-text search. -/
def fullTextSearch : Parser Expr := do
  let columns ← requiredColumns
  expectKeyword .AGAINST
  expectSymbol .leftParen
  let value ← valuePiece
  let mode ← searchMode
  expectSymbol .rightParen
  return .phrase [
    .text ("MATCH (" ++ printIdents columns ++ ") AGAINST ("), value, .text (mode ++ ")")]

/-! ### Structures -/

/-- One field of a structure: a type, behind a name unless a word stands here that is spelled like
a keyword. -/
def structField (inner : Inner) : Parser (String × Bool) := do
  let anonymous :=
    match ← peek with
    | some (.word word) => (Keyword.ofWord? word.value.toList).isSome
    | _ => false
  let mark ← do
    if anonymous then pure "" else pure ((← ident).print ++ " ")
  let type ← inner.openType
  return (mark ++ type.dataType.written, type.closesOuter)

/-- The fields of a structure. A field that closed the structure must be the last one. -/
def structFields (inner : Inner) : Parser (List String × Bool) := do
  let start ← peekLocated
  expectKeyword .STRUCT
  unless ← symbol .less do return ([], false)
  let (first, closed) ← structField inner
  let (fields, closed) ← loop ([first], closed) fun (fields, closed) => do
    unless ← symbol .comma do return none
    if closed then failAt "unmatched > in STRUCT definition" start
    let (field, closed) ← structField inner
    return some (fields ++ [field], closed)
  return (fields, ← closingBracket closed)

/-- The name of a structure with its fields as it is printed. -/
def printStruct (fields : List String) : String :=
  match fields with
  | [] => "STRUCT"
  | fields => "STRUCT<" ++ separated ", " fields ++ ">"

/-- One value of a structure. It may have a name if the fields of the structure are not listed. -/
def structValue (inner : Inner) (typed : Bool) : Parser (List Piece) := do
  let value ← inner.expr
  unless ← atOneOf [.AS] do return [.expr value]
  if typed then failAt "Typed syntax does not allow AS" (← peekLocated)
  expectKeyword .AS
  return [.expr value, .text (" AS " ++ (← ident).print)]

/-- A structure written out. -/
def structLiteral (inner : Inner) : Parser Expr := do
  let (fields, closesOuter) ← structFields inner
  if closesOuter then failAt "unmatched > in STRUCT literal" (← peekLocated)
  let values ← parenthesized (commaSeparated (structValue inner !fields.isEmpty))
  return .phrase (
    [.text (printStruct fields ++ "(")] ++ [Piece.text ", "].intercalate values ++ [.text ")"])

end SqlImage.Sql.Grammar
