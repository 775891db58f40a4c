/-
This file reads statements. The first word tells which statement it is; of those
that have no kind of their own it is all that is kept. Statements are divided by
semicolons, and the word `END` behind one ends the whole text.
-/

import SqlImage.Sql.Grammar.Administration
import SqlImage.Sql.Grammar.Alteration
import SqlImage.Sql.Grammar.Setting
import SqlImage.Sql.Grammar.Transfer

namespace SqlImage.Sql.Grammar

open SqlImage.Sql.Parser

/-! ### Several statements -/

/-- What comes next where statements are read: a semicolon, a statement, or nothing more. Behind a
statement none may begin, but the word `END` ends the text. -/
def nextStatement (inner : Inner) (found : List Statement) (behindOne : Bool) :
    Parser (Option (List Statement × Bool)) := do
  if ← symbol .semicolon then return some (found, false)
  match ← peek with
  | none => return none
  | some token =>
    if behindOne then
      if token.keyword? = some .END then return none
      expected "end of statement"
    return some ((← inner.statement) :: found, true)

/-- Statements up to the end. Between two of them a semicolon must stand. -/
def statements (inner : Inner) : Parser (List Statement) := do
  let (found, _) ← loop (([] : List Statement), false) fun (found, behindOne) =>
    nextStatement inner found behindOne
  return found.reverse

/-! ### Prepared statements and cursors -/

/-- A statement that is prepared, behind the first word. -/
def prepare (inner : Inner) : Parser Unit := do
  let _ ← ident
  if ← symbol .leftParen then
    let _ ← commaSeparated inner.dataType
    expectSymbol .rightParen
  expectKeyword .AS
  let _ ← inner.statement

/-- A prepared statement that is executed, behind the first word. -/
def execute (inner : Inner) : Parser Unit := do
  let _ ← ident
  if ← symbol .leftParen then
    let _ ← inner.exprs
    expectSymbol .rightParen

/-- A prepared statement that is given up, behind the first word. -/
def deallocate : Parser Unit := do
  let _ ← keyword .PREPARE
  let _ ← ident

/-- A cursor, behind the first word. -/
def declare (inner : Inner) : Parser Unit := do
  let _ ← ident
  let _ ← keyword .BINARY
  let _ ← oneOf [.INSENSITIVE, .ASENSITIVE]
  unless ← keyword .SCROLL do
    let _ ← keywords [.NO, .SCROLL]
  expectKeyword .CURSOR
  if (← oneOf [.WITH, .WITHOUT]).isSome then expectKeyword .HOLD
  expectKeyword .FOR
  let _ ← inner.query

/-- Which rows of a cursor are fetched. -/
def fetchDirection : Parser Unit := do
  match ← oneOf [.NEXT, .PRIOR, .FIRST, .LAST, .ABSOLUTE, .RELATIVE, .FORWARD, .BACKWARD,
      .ALL] with
  | none => numberValue
  | some .ABSOLUTE | some .RELATIVE => numberValue
  | some .FORWARD | some .BACKWARD => unless ← keyword .ALL do numberValue
  | some _ => return ()

/-- Rows that are fetched from a cursor, behind the first word. -/
def fetchRows : Parser Unit := do
  fetchDirection
  let _ ← expectOneOf [.FROM, .IN]
  let _ ← ident
  if ← keyword .INTO then
    let _ ← name

/-- A cursor that is closed, behind the first word. -/
def close : Parser Unit := do
  unless ← keyword .ALL do
    let _ ← ident

/-! ### Other statements -/

/-- A procedure that is called, behind the first word. -/
def callProcedure (inner : Inner) : Parser Unit := do
  let procedure ← name
  if ← atSymbol .leftParen then
    let _ ← Grammar.call inner procedure

/-- A condition that must hold, behind the first word. -/
def assert (inner : Inner) : Parser Unit := do
  let _ ← inner.expr
  if ← keyword .AS then
    let _ ← inner.expr

/-- The words that a statement about another statement begins with. -/
def explainWords : List Keyword := [.EXPLAIN, .DESCRIBE]

/-- Whether a statement is about another statement. -/
def explains : Statement → Bool
  | .other word => word ∈ explainWords.map Keyword.spelling
  | _ => false

/-- The form of an explanation. -/
def explainFormat : Parser Unit := do
  let found ← next
  match (found.map Located.token).bind Token.keyword? with
  | some .TEXT | some .GRAPHVIZ | some .JSON => return ()
  | _ => expectedAt "fileformat" found

/-- The statement or the table that is explained, behind the first word. No explanation is
explained. -/
def explain (inner : Inner) : Parser Unit := do
  let _ ← keyword .ANALYZE
  let _ ← keyword .VERBOSE
  if ← keyword .FORMAT then explainFormat
  match ← attempt inner.statement with
  | none =>
    let _ ← name
  | some statement =>
    if explains statement then failWith "Explain must be root of the plan"

/-- An insertion behind its first word as a statement. Rows that go to a directory have no kind of
their own. -/
def insertStatement (inner : Inner) : Parser Statement := do
  let (intoTable, _) ← insert inner
  return if intoTable then .insert else .other "INSERT"

/-! ### The first word -/

/-- The rest of a statement that has a kind of its own, by the first word. -/
def kindStatement? (inner : Inner) (word : Keyword) : Option (Parser Statement) :=
  match word with
  | .INSERT | .REPLACE => some (insertStatement inner)
  | .UPDATE => some do
    let _ ← update inner
    return .update
  | .DELETE => some (yielding .delete (delete inner))
  | .CREATE => some (create inner (statements inner))
  | .DROP => some (yielding .drop (drop inner))
  | .DEALLOCATE => some (yielding .drop deallocate)
  | .PREPARE => some (yielding .prepare (prepare inner))
  | .EXECUTE => some (yielding .execute (execute inner))
  | .COPY => some (copy inner)
  | .ALTER => some (alter inner)
  | .SHOW => some (yielding .showInfo (showSetting inner))
  | .SET => some (set inner)
  | .START => some (yielding .transaction start)
  | .BEGIN => some (yielding .transaction begin)
  | .END | .COMMIT => some (yielding .transaction chain)
  | .ROLLBACK => some (yielding .transaction rollback)
  | .SAVEPOINT => some do
    let _ ← ident
    return .transaction
  | _ => none

/-- The rest of a statement that is known by its first word only. -/
def wordStatement? (inner : Inner) (word : Keyword) : Option (Parser Unit) :=
  match word with
  | .KILL => some kill
  | .FLUSH => some flush
  | .EXPLAIN | .DESCRIBE => some (explain inner)
  | .ANALYZE => some (analyze inner)
  | .TRUNCATE => some (truncate inner)
  | .ATTACH => some (attach inner)
  | .MSCK => some repair
  | .CACHE => some (cache inner)
  | .UNCACHE => some uncache
  | .DISCARD => some discard
  | .DECLARE => some (declare inner)
  | .FETCH => some fetchRows
  | .CLOSE => some close
  | .CALL => some (callProcedure inner)
  | .USE => some do
    let _ ← ident
  | .GRANT => some grant
  | .REVOKE => some revoke
  | .RELEASE => some release
  | .ASSERT => some (assert inner)
  | .MERGE => some (merge inner)
  | .PRAGMA => some pragma
  | _ => none

/-- Whether a token begins a query. -/
def beginsQuery (token : Token) : Bool :=
  token = .symbol .leftParen || isOneOf [.SELECT, .WITH, .VALUES] token

/-- A statement. -/
def statement (inner : Inner) : Parser Statement := deeper do
  if ((← peek).map beginsQuery).getD false then return .query (← inner.query)
  let found ← next
  match (found.map Located.token).bind Token.keyword? with
  | none => expectedAt "an SQL statement" found
  | some word =>
    match kindStatement? inner word, wordStatement? inner word with
    | some rest, _ => rest
    | none, some rest => yielding (.other word.spelling) rest
    | none, none => expectedAt "an SQL statement" found

end SqlImage.Sql.Grammar
