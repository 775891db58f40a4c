/-
This file reads functions: their arguments, which may be stars or have names, and
what stands behind the closing parenthesis. A window is kept as a phrase, because
no result can hold one.
-/

import SqlImage.Sql.Grammar.Inner

namespace SqlImage.Sql.Grammar

open SqlImage.Sql.Parser

/-! ### Stars -/

/-- The names before a star, when some names were read and a dot and more may follow. Nothing
is given if the dots end without a star. -/
def starFrom : (fuel : Nat) → List Ident → Parser (Option (List Ident))
  | 0, _ => return none
  | fuel + 1, path => do
    unless ← symbol .period do return none
    let found ← next
    match found.map Located.token with
    | some (.symbol .asterisk) => return some path
    | token =>
      match token.bind identOfToken? with
      | some name => starFrom fuel (path ++ [name])
      | none => expectedAt "an identifier or a '*' after '.'" found

/-- The names before a star, if the tokens begin with these. -/
def starPath : Parser (Option (List Ident)) := orRewind do
  match ((← next).map Located.token).bind identOfToken? with
  | some first => counted fun count => starFrom (count + 1) [first]
  | none => return none

/-- An expression, or a star for all columns. -/
def exprOrStar (inner : Inner) : Parser ArgumentValue := do
  if ← symbol .asterisk then return .star
  match ← starPath with
  | some path => return .qualifiedStar path
  | none => return .expr (← inner.expr)

/-! ### Arguments -/

/-- One argument of a function. -/
def argument (inner : Inner) : Parser Argument := do
  if (← peekAt 1) = some (.symbol .fatArrow) then
    let name ← ident
    expectSymbol .fatArrow
    return ⟨some name, ← exprOrStar inner⟩
  return ⟨none, ← exprOrStar inner⟩

/-- The arguments up to the closing parenthesis, and the order in which rows are given to the
function. -/
def orderedArguments (inner : Inner) : Parser (List Argument × List OrderItem) := do
  if ← symbol .rightParen then return ([], [])
  let arguments ← commaSeparated (argument inner)
  let order ← inner.orderBy
  expectSymbol .rightParen
  return (arguments, order)

/-- The arguments up to the closing parenthesis. -/
def arguments (inner : Inner) : Parser (List Argument) := do
  if ← symbol .rightParen then return []
  let arguments ← commaSeparated (argument inner)
  expectSymbol .rightParen
  return arguments

/-! ### Distinct rows -/

/-- Whether equal rows are left out. -/
def distinct (inner : Inner) : Parser Distinct := do
  let start ← peekLocated
  let all ← keyword .ALL
  unless ← keyword .DISTINCT do return .no
  if all then failAt "Cannot specify both ALL and DISTINCT" start
  unless ← keyword .ON do return .rows
  expectSymbol .leftParen
  let keys ← if ← atSymbol .rightParen then pure [] else inner.exprs
  expectSymbol .rightParen
  return .on keys

/-- Whether a function leaves out equal rows. The keys by which it does are forgotten. -/
def isDistinct (inner : Inner) : Parser Bool := do
  match ← distinct inner with
  | .no => return false
  | _ => return true

/-! ### Windows -/

/-- One end of a window frame. -/
def frameBound (inner : Inner) : Parser (List Piece) := do
  if ← keywords [.CURRENT, .ROW] then return [.text "CURRENT ROW"]
  let rows ← do
    if ← keyword .UNBOUNDED then pure [.text "UNBOUNDED"]
    else
      match ← peek with
      | some (.string .plain _) => pure [.expr (← inner.interval)]
      | _ => pure [.expr (← inner.expr)]
  if ← keyword .PRECEDING then return rows ++ [.text " PRECEDING"]
  if ← keyword .FOLLOWING then return rows ++ [.text " FOLLOWING"]
  expected "PRECEDING or FOLLOWING"

/-- The frame of a window. -/
def windowFrame (inner : Inner) : Parser (List Piece) := do
  let found ← next
  match (found.map Located.token).bind Token.keyword? with
  | some unit =>
    unless unit ∈ [Keyword.ROWS, .RANGE, .GROUPS] do expectedAt "ROWS, RANGE, GROUPS" found
    if ← keyword .BETWEEN then
      let start ← frameBound inner
      expectKeyword .AND
      let stop ← frameBound inner
      return [.text (unit.spelling ++ " BETWEEN ")] ++ start ++ [.text " AND "] ++ stop
    return [.text (unit.spelling ++ " ")] ++ (← frameBound inner)
  | none => expectedAt "ROWS, RANGE, GROUPS" found

/-- Parts of a phrase with one space between them, empty ones left out. -/
def spaced (parts : List (List Piece)) : List Piece :=
  [Piece.text " "].intercalate (parts.filter (!·.isEmpty))

/-- What stands in the parentheses of a window, with the closing one. -/
def windowSpec (inner : Inner) : Parser (List Piece) := do
  let partition ← do
    if ← keywords [.PARTITION, .BY] then
      pure ([.text "PARTITION BY "] ++ exprPieces (← inner.exprs))
    else pure []
  let order ← inner.orderBy
  let orderPart := if order.isEmpty then [] else [.text "ORDER BY "] ++ orderPieces order
  if ← symbol .rightParen then return spaced [partition, orderPart]
  let frame ← windowFrame inner
  expectSymbol .rightParen
  return spaced [partition, orderPart, frame]

/-- The window of a function, a phrase that is empty if there is none. -/
def window (inner : Inner) : Parser (List Piece) := do
  unless ← keyword .OVER do return []
  if ← symbol .leftParen then
    return [.text " OVER ("] ++ (← windowSpec inner) ++ [.text ")"]
  return [.text (" OVER " ++ (← ident).print)]

/-! ### Calls -/

/-- What a function does with null values, if that is said. -/
def nullTreatment : Parser (Option NullTreatment) := do
  match ← oneOf [.RESPECT, .IGNORE] with
  | none => return none
  | some word =>
    expectKeyword .NULLS
    return some (if word = .RESPECT then .respectNulls else .ignoreNulls)

/-- The function of a name, from its opening parenthesis on. -/
def call (inner : Inner) (name : List Ident) : Parser Call := do
  expectSymbol .leftParen
  let distinct ← isDistinct inner
  let (arguments, order) ← orderedArguments inner
  let nullTreatment ← nullTreatment
  let window ← window inner
  return ⟨name, distinct, arguments, order, none, nullTreatment, window, false⟩

/-- A function that may stand without parentheses, and knows nothing of windows. -/
def timeCall (inner : Inner) (name : List Ident) : Parser Call := do
  if ← symbol .leftParen then
    let (arguments, order) ← orderedArguments inner
    return ⟨name, false, arguments, order, none, none, [], false⟩
  return ⟨name, false, [], [], none, none, [], true⟩

end SqlImage.Sql.Grammar
