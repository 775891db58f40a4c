/-
This file turns a text into a tree, or tells what is wrong with it. Every statement
is found twice: by the parser, which gives its tree, and by the semicolons around
it, which give its length. If the two do not find equally many statements, the
lengths are left out.
-/

import SqlImage.Lowering.Statement
import SqlImage.Options
import SqlImage.Sql.Grammar
import SqlImage.Sql.Span
import SqlImage.Text.Located
import SqlImage.Text.Utf8

namespace SqlImage

open SqlImage.Tree

/-! ### Errors -/

/-- A message that blames a position. -/
def invalidAt (message : String) (position : Position) : ParseResult :=
  .invalid ⟨message, Int32.ofNat position.line, Int32.ofNat position.column⟩

/-- A message about a text. If it names no position, the end of the text is blamed. -/
def invalidText (text : List Char) (message : String) : ParseResult :=
  invalidAt message ((Text.Located.position? message.toList).getD (.endOf text))

/-! ### Statements with their places -/

/-- The spans of a number of statements, none if their number is another one. -/
def spansOf (text : List Char) (count : Nat) : List Sql.Span :=
  match Sql.split text with
  | .ok spans => if spans.length = count then spans else []
  | .error _ => []

/-- The trees of statements with their lengths. The first statement without a tree is refused with
the position of its span. -/
def lowerStatements : List Sql.Statement → List Sql.Span → Except (Unsupported × Position)
    (List Statement)
  | [], _ => .ok []
  | statement :: rest, spans => do
    let span := spans.head?
    let position := (span.map Sql.Span.position).getD .start
    let tree ← statement.lower.mapError fun cause => (cause, position)
    let length := (span.map Sql.Span.length).getD 0
    return tree.withLength (UInt64.ofNat length) :: (← lowerStatements rest spans.tail)

/-! ### Texts and bytes -/

/-- The tree of a text, or what is wrong with it. -/
def parse (options : Options) (text : List Char) : ParseResult :=
  match Sql.parseText options.recursionLimit.toNat text with
  | .error error => invalidText text error.message
  | .ok statements =>
    match lowerStatements statements (spansOf text statements.length) with
    | .error (cause, position) =>
      invalidAt ("Unsupported construct: " ++ cause.message) position
    | .ok statements => .valid statements

/-- The tree of a text that is given by its bytes, of which those from the first zero on do not
count. -/
def parseBytes (bytes : List Nat) : ParseResult :=
  match Text.Utf8.decode (bytes.takeWhile (· ≠ 0)) with
  | .ok text => parse .default text
  | .error fault =>
    invalidAt ("query is not valid UTF-8: " ++ fault.message) (.endOf fault.before)

/-- The answer to no text at all. -/
def parseNothing : ParseResult := invalidAt "query is null" .start

end SqlImage
