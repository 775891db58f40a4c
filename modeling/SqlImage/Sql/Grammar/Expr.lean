/-
This file reads expressions. An operand is read first, and then every operator
behind it that binds tighter than the place demands takes it in, so that operators
of one strength associate to the left. Strengths are numbers; a token that is no
operator has none, which is written as zero.
-/

import SqlImage.Sql.Grammar.Special

namespace SqlImage.Sql.Grammar

open SqlImage.Sql.Parser

/-! ### Strengths -/

/-- The strength of a comparison, of `BETWEEN` and `IN`. -/
def comparisonStrength : Nat := 20

/-- The strength of `LIKE` and its kin. -/
def likeStrength : Nat := 19

/-- The strength of a multiplication and of a sign. -/
def productStrength : Nat := 40

/-- The strength of a negation. -/
def negationStrength : Nat := 15

/-- The strength of the tests that may be negated. -/
def testStrength : Keyword → Nat
  | .IN | .BETWEEN => comparisonStrength
  | .LIKE | .ILIKE | .RLIKE | .REGEXP | .SIMILAR => likeStrength
  | _ => 0

/-- The strength of an operator that is a word, with the two keywords behind it. -/
def wordStrength (word second third : Option Keyword) : Nat :=
  match word with
  | some .OR => 5
  | some .AND => 10
  | some .XOR => 24
  | some .AT => if second = some .TIME ∧ third = some .ZONE then comparisonStrength else 0
  | some .NOT => (second.map testStrength).getD 0
  | some .IS => 17
  | some .OPERATOR => comparisonStrength
  | some .DIV => productStrength
  | some other => testStrength other
  | none => 0

/-- The strength of an operator that is a symbol. -/
def symbolStrength : Symbol → Nat
  | .equal | .less | .lessEqual | .notEqual | .greater | .greaterEqual | .doubleEqual | .tilde
  | .tildeAsterisk | .bangTilde | .bangTildeAsterisk | .doubleTilde | .doubleTildeAsterisk
  | .bangDoubleTilde | .bangDoubleTildeAsterisk | .spaceship => comparisonStrength
  | .pipe => 21
  | .caret | .hash | .shiftRight | .shiftLeft => 22
  | .ampersand => 23
  | .plus | .minus => 30
  | .asterisk | .slash | .doubleSlash | .percent | .doublePipe => productStrength
  | .doubleColon | .colon | .bang | .leftBracket | .longArrow | .arrow | .hashArrow
  | .hashLongArrow | .atArrow | .arrowAt | .hashMinus | .atQuestion | .doubleAt
  | .doubleAmpersand | .caretAt => 50
  | _ => 0

/-- The strength of the operator that is next. -/
def nextStrength : Parser Nat := do
  match ← peek with
  | some (.symbol sign) => return symbolStrength sign
  | token =>
    let second ← peekAt 1
    let third ← peekAt 2
    return wordStrength (token.bind Token.keyword?) (second.bind Token.keyword?)
      (third.bind Token.keyword?)

/-- The strength of the operator that is next in an interval, where the logical operators
end the value. -/
def nextIntervalStrength : Parser Nat := do
  if ← atOneOf [.AND, .OR, .XOR] then return 0
  nextStrength

/-! ### Operators -/

/-- The operator with two operands that a symbol is, if it is one. -/
def symbolOperator? : Symbol → Option BinaryOperator
  | .equal | .doubleEqual => some .equal
  | .notEqual => some .notEqual
  | .less => some .less
  | .lessEqual => some .lessEqual
  | .greater => some .greater
  | .greaterEqual => some .greaterEqual
  | .plus => some .plus
  | .minus => some .minus
  | .asterisk => some .multiply
  | .slash => some .divide
  | .percent => some .modulo
  | .doublePipe => some .concat
  | .caret => some .caret
  | sign =>
    if sign ∈ [Symbol.spaceship, .pipe, .ampersand, .doubleSlash, .shiftLeft, .shiftRight,
        .doubleAmpersand, .caretAt, .tilde, .tildeAsterisk, .bangTilde, .bangTildeAsterisk,
        .doubleTilde, .doubleTildeAsterisk, .bangDoubleTilde, .bangDoubleTildeAsterisk]
    then some (.other sign.text)
    else none

/-- The parts of the name of an operator that is called by its name. -/
def operatorParts : Parser (List String) :=
  sepBy (symbol .period) do return ((← next).map (·.token.text)).getD "EOF"

/-- An operator that is called by its name, behind the first word. -/
def namedOperator : Parser BinaryOperator := do
  let parts ← parenthesized operatorParts
  return .other ("OPERATOR(" ++ separated "." parts ++ ")")

/-- The operator with two operands that a word begins, if it begins one. -/
def wordOperator? : Keyword → Option (Parser BinaryOperator)
  | .AND => some (pure .and)
  | .OR => some (pure .or)
  | .XOR => some (pure (.other "XOR"))
  | .OPERATOR => some namedOperator
  | _ => none

/-- Whether an operator compares, so that it may compare with any or all of something. -/
def compares (operator : BinaryOperator) : Bool :=
  operator ∈ [BinaryOperator.greater, .less, .greaterEqual, .lessEqual, .equal, .notEqual]

/-- An operator with its second operand, or with any or all of one. The operator token is blamed
when the operator does not compare. -/
def binary (inner : Inner) (strength : Nat) (left : Expr) (operator : BinaryOperator)
    (start : Option Located) : Parser Expr := do
  match ← oneOf [.ANY, .ALL] with
  | none => return .binary operator left (← inner.operand strength)
  | some word =>
    let right ← parenthesized (inner.operand strength)
    unless compares operator do
      failAt ("Expected one of [=, >, <, =>, =<, !=] as comparison operator, found: " ++
        operator.print) start
    return .phrase [
      .expr left, .text (" " ++ operator.print ++ " " ++ word.spelling ++ "("), .expr right,
      .text ")"]

/-! ### Tests -/

/-- What stands behind `IS`. -/
def isTest (inner : Inner) (operand : Expr) : Parser Expr := do
  let suffix (text : String) : Parser Expr := return .phrase [.expr operand, .text text]
  if ← keyword .NULL then return .isNull false operand
  if ← keywords [.NOT, .NULL] then return .isNull true operand
  if ← keyword .TRUE then suffix " IS TRUE"
  else if ← keywords [.NOT, .TRUE] then suffix " IS NOT TRUE"
  else if ← keyword .FALSE then suffix " IS FALSE"
  else if ← keywords [.NOT, .FALSE] then suffix " IS NOT FALSE"
  else if ← keyword .UNKNOWN then suffix " IS UNKNOWN"
  else if ← keywords [.NOT, .UNKNOWN] then suffix " IS NOT UNKNOWN"
  else if ← keywords [.DISTINCT, .FROM] then
    return .phrase [.expr operand, .text " IS DISTINCT FROM ", .expr (← inner.expr)]
  else if ← keywords [.NOT, .DISTINCT, .FROM] then
    return .phrase [.expr operand, .text " IS NOT DISTINCT FROM ", .expr (← inner.expr)]
  else expected "[NOT] NULL or TRUE|FALSE or [NOT] DISTINCT FROM after IS"

/-- What stands behind `IN`. -/
def inTest (inner : Inner) (negated : Bool) (operand : Expr) : Parser Expr := do
  if ← keyword .UNNEST then
    let array ← inner.parenthesizedExpr
    return .phrase [
      .expr operand, .text (" " ++ printNot negated ++ "IN UNNEST("), .expr array, .text ")"]
  expectSymbol .leftParen
  let test ← do
    if ← atOneOf [.SELECT, .WITH] then pure (Expr.inQuery negated operand (← inner.query))
    else pure (Expr.inList negated operand (← inner.exprs))
  expectSymbol .rightParen
  return test

/-- What stands behind `BETWEEN`. -/
def betweenTest (inner : Inner) (negated : Bool) (operand : Expr) : Parser Expr := do
  let low ← inner.operand comparisonStrength
  expectKeyword .AND
  return .between negated operand low (← inner.operand comparisonStrength)

/-- A test that may be negated, from the word on that negates it. -/
def negatableTest (inner : Inner) (operand : Expr) : Parser Expr := do
  let negated ← keyword .NOT
  let infixed (words : String) (pattern : Expr) (escape : Option Char) : Expr :=
    .phrase [.expr operand, .text (" " ++ printNot negated ++ words ++ " "), .expr pattern,
      .text ((escape.map fun character => " ESCAPE '" ++ character.toString ++ "'").getD "")]
  let isRegexp ← keyword .REGEXP
  let isRlike ← keyword .RLIKE
  if isRegexp || isRlike then
    let pattern ← inner.operand likeStrength
    return infixed (if isRegexp then "REGEXP" else "RLIKE") pattern none
  if ← keyword .IN then return ← inTest inner negated operand
  if ← keyword .BETWEEN then return ← betweenTest inner negated operand
  if ← keyword .LIKE then
    let pattern ← inner.operand likeStrength
    return .like false negated operand pattern (← escapeCharacter)
  if ← keyword .ILIKE then
    let pattern ← inner.operand likeStrength
    return .like true negated operand pattern (← escapeCharacter)
  if ← keywords [.SIMILAR, .TO] then
    let pattern ← inner.operand likeStrength
    return infixed "SIMILAR TO" pattern (← escapeCharacter)
  expected "IN or BETWEEN after NOT"

/-- The time zone behind `AT TIME ZONE`. -/
def timeZone (operand : Expr) (start : Option Located) : Parser Expr := do
  unless ← keywords [.TIME, .ZONE] do expectedAt "Expected Token::Word after AT" start
  let found ← next
  match found.map Located.token with
  | some (.string .plain zone) =>
    return .phrase [.expr operand, .text (" AT TIME ZONE '" ++ zone ++ "'")]
  | _ => expectedAt "Expected Token::SingleQuotedString after AT TIME ZONE" found

/-- The word for a whole quotient has a strength but no operator, so it cannot follow an operand. -/
def wholeQuotient (start : Option Located) : Parser Expr :=
  let written := (start.map (·.token.text)).getD ""
  failAt ("No infix parser for token Word(Word \x7b value: " ++ Text.quoted written ++
    ", quote_style: None, keyword: DIV \x7d)") start

/-! ### What stands behind an operand -/

/-- A subscript behind its opening bracket. -/
def subscript (inner : Inner) : Parser Expr := do
  let index ← inner.expr
  expectSymbol .rightBracket
  return index

/-- The operators that reach into a document. -/
def documentOperators : List Symbol := [
  .arrow, .longArrow, .hashArrow, .hashLongArrow, .atArrow, .arrowAt, .hashMinus, .atQuestion,
  .doubleAt]

/-- An operand with the symbol behind it taken in. -/
def behindSymbol (inner : Inner) (strength : Nat) (operand : Expr) (sign : Symbol)
    (start : Option Located) : Parser Expr := do
  match symbolOperator? sign with
  | some operator => binary inner strength operand operator start
  | none =>
    match sign with
    | .doubleColon => colonCast inner operand
    | .bang => return .unary .factorial operand
    | .leftBracket =>
      let subscripts ← sepBy (symbol .leftBracket) (subscript inner)
      return .index operand subscripts
    | .colon => return .phrase [.expr operand, .text ":", ← valuePiece]
    | .hash => failAt "No infix parser for token Sharp" start
    | _ =>
      if sign ∈ documentOperators then
        let right ← inner.expr
        return .phrase [.expr operand, .text (" " ++ sign.text ++ " "), .expr right]
      failAt ("No infix parser for token " ++ sign.text) start

/-- An operand with the operator behind it taken in. -/
def behind (inner : Inner) (strength : Nat) (operand : Expr) : Parser Expr := do
  let start ← peekLocated
  match start.map Located.token with
  | some (.symbol sign) =>
    let _ ← next
    behindSymbol inner strength operand sign start
  | token =>
    match token.bind Token.keyword? with
    | some .IS =>
      let _ ← next
      isTest inner operand
    | some .AT =>
      let _ ← next
      timeZone operand start
    | some .DIV =>
      let _ ← next
      wholeQuotient start
    | word =>
      match word.bind wordOperator? with
      | some operator =>
        let _ ← next
        binary inner strength operand (← operator) start
      | none => negatableTest inner operand

/-! ### Operands -/

/-- A value that is no word. -/
def literal : Parser Literal := do
  let found ← next
  match found.map Located.token with
  | some (.number digits long) => return .number digits long
  | some (.string style content) => return .string style content
  | some (.dollarString tag content) => return .dollarString tag content
  | some (.placeholder name) => return .placeholder name
  | some (.symbol .colon) => markedPlaceholder .colon
  | some (.symbol .at) => markedPlaceholder .at
  | _ => expectedAt "a value" found

/-- A text behind the name of its type. Types with a name of their own do not count here, because
any word could be one. -/
def typedText (inner : Inner) : Parser Expr := do
  let dataType ← wholeType inner.openType
  match dataType.sort with
  | .interval => inner.interval
  | .custom => failWith "dummy"
  | .builtIn =>
    return .phrase [.text (dataType.written ++ " " ++ enquote '\'' (← literalText))]

/-- A choice by conditions behind its first word. -/
def case (inner : Inner) : Parser Expr := do
  let branch : Parser Branch := do
    let condition ← inner.expr
    expectKeyword .THEN
    return ⟨condition, ← inner.expr⟩
  let operand ← do
    if ← keyword .WHEN then pure none
    else
      let operand ← inner.expr
      expectKeyword .WHEN
      pure (some operand)
  let branches ← sepBy (keyword .WHEN) branch
  let otherwise ← given (keyword .ELSE) inner.expr
  expectKeyword .END
  return .case operand branches otherwise

/-- A test for rows behind its first word. -/
def hasRow (inner : Inner) (negated : Bool) : Parser Expr := do
  return .hasRow negated (← parenthesized inner.query)

/-- The elements of an array behind the opening bracket. -/
def arrayElements (inner : Inner) (named : Bool) : Parser Expr := do
  if ← symbol .rightBracket then return .array named []
  let elements ← inner.exprs
  expectSymbol .rightBracket
  return .array named elements

/-- The names behind the dots of a name. -/
def pathFrom : (fuel : Nat) → List Ident → Parser (List Ident)
  | 0, path => return path
  | fuel + 1, path => do
    unless ← symbol .period do return path
    let found ← next
    match found.map Located.token with
    | some (.symbol .asterisk) => expectedAt "an identifier after '.'" found
    | token =>
      match token.bind identOfToken? with
      | some name => pathFrom fuel (path ++ [name])
      | none => expectedAt "an identifier or a '*' after '.'" found

/-- A column, a function or a text with a character set, behind its first word. -/
def named (inner : Inner) (word : Word) : Parser Expr := do
  let first := identOfWord word
  match ← peek with
  | some (.symbol .leftParen) => return .call (← call inner [first])
  | some (.symbol .period) =>
    let path ← counted fun count => pathFrom (count + 1) [first]
    if ← atSymbol .leftParen then return .call (← call inner path) else return .column path
  | some (.string style content) =>
    if word.value.startsWith "_" && style ∈ [StringStyle.plain, .hexadecimal] then
      let _ ← next
      return .phrase [.text (word.value ++ " " ++ (Literal.string style content).print)]
    return .column [first]
  | _ => return .column [first]

/-- An operand that begins with a word, behind the word. -/
def worded (inner : Inner) (word : Word) : Parser Expr := do
  let bare : Expr := .call ⟨[identOfWord word], false, [], [], none, none, [], true⟩
  match word.keyword with
  | some .TRUE => return .literal (.boolean true)
  | some .FALSE => return .literal (.boolean false)
  | some .NULL => return .literal .null
  | some .CURRENT_CATALOG | some .CURRENT_USER | some .SESSION_USER | some .USER => return bare
  | some .CURRENT_TIMESTAMP | some .CURRENT_TIME | some .CURRENT_DATE | some .LOCALTIME
  | some .LOCALTIMESTAMP => return .call (← timeCall inner [identOfWord word])
  | some .CASE => case inner
  | some .CONVERT => convert inner
  | some .CAST => cast inner .CAST
  | some .TRY_CAST => cast inner .TRY_CAST
  | some .SAFE_CAST => cast inner .SAFE_CAST
  | some .EXISTS => hasRow inner false
  | some .EXTRACT => extract inner
  | some .CEIL => round inner .CEIL
  | some .FLOOR => round inner .FLOOR
  | some .SUBSTRING => substring inner
  | some .OVERLAY => overlay inner
  | some .TRIM => trim inner
  | some .INTERVAL => inner.interval
  | some .LISTAGG => listAggregate inner
  | some .ARRAY_AGG => arrayAggregate inner
  | some .NOT =>
    if ← keyword .EXISTS then hasRow inner true
    else return .unary .not (← inner.operand negationStrength)
  | some .MATCH => fullTextSearch
  | some .POSITION => if ← atSymbol .leftParen then position inner else named inner word
  | some .ARRAY =>
    if ← symbol .leftBracket then arrayElements inner true
    else if ← symbol .leftParen then
      let query ← inner.query
      expectSymbol .rightParen
      return .phrase [.text "ARRAY(", .query query, .text ")"]
    else named inner word
  | _ => named inner word

/-- What stands in parentheses: a query, an expression, or several of them. A name may be picked
from it by a dot. -/
def inParentheses (inner : Inner) : Parser Expr := do
  let value ← do
    if ← atOneOf [.SELECT, .WITH] then pure (Expr.subquery (← inner.query))
    else
      match ← inner.exprs with
      | [single] => pure (Expr.nested single)
      | several => pure (Expr.phrase ([.text "("] ++ exprPieces several ++ [.text ")"]))
  expectSymbol .rightParen
  unless ← symbol .period do return value
  let found ← next
  match found.map Located.token with
  | some (.word word) =>
    return .phrase [.expr value, .text ("." ++ (identOfWord word).print)]
  | token =>
    failAt ("Expected identifier, found: " ++ (token.map Token.text).getD "EOF") found

/-- An operand without what may stand behind it. -/
def bareOperand (inner : Inner) : Parser Expr := do
  let found ← peekLocated
  match found.map Located.token with
  | some (.word word) =>
    if word.keyword = some .STRUCT then return ← structLiteral inner
    let _ ← next
    worded inner word
  | some (.symbol .leftBracket) =>
    let _ ← next
    arrayElements inner false
  | some (.symbol .minus) =>
    let _ ← next
    return .unary .minus (← inner.operand productStrength)
  | some (.symbol .plus) =>
    let _ ← next
    return .unary .plus (← inner.operand productStrength)
  | some (.symbol .leftParen) =>
    let _ ← next
    inParentheses inner
  | some (.number ..) | some (.string ..) | some (.dollarString ..) | some (.placeholder ..)
  | some (.symbol .colon) | some (.symbol .at) => return .literal (← literal)
  | _ => expectedAt "an expression:" (← next)

/-- An operand before any operators, perhaps with a collation. A text behind the name of its type
takes no collation. -/
def firstOperand (inner : Inner) : Parser Expr := do
  match ← attempt (typedText inner) with
  | some expr => return expr
  | none =>
    let operand ← bareOperand inner
    unless ← keyword .COLLATE do return operand
    return .phrase [.expr operand, .text (" COLLATE " ++ printName (← name))]

/-- An operand, which takes in the operators behind it that bind tighter than a strength. -/
def operandWith (inner : Inner) (nextStrength : Parser Nat) (strength : Nat) : Parser Expr := do
  loop (← firstOperand inner) fun operand => do
    let found ← nextStrength
    if found ≤ strength then return none
    return some (← behind inner found operand)

/-- An operand of an operator with a strength. -/
def operand (inner : Inner) (strength : Nat) : Parser Expr :=
  operandWith inner nextStrength strength

/-- An interval behind its first word. -/
def interval (inner : Inner) : Parser Expr := do
  let value ← operandWith inner nextIntervalStrength 0
  return .interval value (← intervalUnit)

end SqlImage.Sql.Grammar
