/-
This file ties the grammar of SQL together. The parsers of one level are made with
those of the level below, and every construct that is entered without reading a
token is left again soon, so twice as many levels as there are tokens are enough
for any text.
-/

import SqlImage.Sql.Grammar.Expr
import SqlImage.Sql.Grammar.Statement

namespace SqlImage.Sql.Grammar

/-- The parsers of a level. -/
def rules : (level : Nat) → Inner
  | 0 => .none
  | level + 1 => {
    openType := .delayed fun _ => openType (rules level).openType
    operand := fun strength => .delayed fun _ => operand (rules level) strength
    interval := .delayed fun _ => interval (rules level)
    query := .delayed fun _ => query (rules level)
    body := fun strength => .delayed fun _ => body (rules level) strength
    tableFactor := .delayed fun _ => tableFactor (rules level)
    statement := .delayed fun _ => statement (rules level) }

end Grammar

/-- The statements that some tokens are. `room` is how deep statements, queries and expressions
may nest. -/
def parseTokens (room : Nat) (tokens : List Located) : Except ParseError (List Statement) :=
  let solid := tokens.filter fun located => located.token ≠ .blank
  match (Grammar.statements (Grammar.rules (2 * solid.length + 8))).run room solid with
  | .ok statements _ => .ok statements
  | .error error _ => .error error

/-! ### Errors of a text -/

/-- Why a text is no SQL: one of its tokens does not end, or its tokens do not fit together. -/
inductive TextError where
  | lexical (error : LexError)
  | grammatical (error : ParseError)

/-- The error in words. -/
def TextError.message : TextError → String
  | .lexical error => "sql parser error: " ++ error.message
  | .grammatical error => "sql parser error: " ++ error.message

/-- The statements of a text. -/
def parseText (room : Nat) (text : List Char) : Except TextError (List Statement) := do
  let tokens ← (tokenize text).mapError .lexical
  (parseTokens room tokens).mapError .grammatical

end SqlImage.Sql
