/-
This file finds the statements in a text without parsing them: they lie between
semicolons. A span runs from the first token of a statement to its last one,
leaving out the blanks and comments around it, and a stretch without any other
token has no span. A token ends where the next one begins.
-/

import SqlImage.Sql.Lexer
import SqlImage.Text.Slice

namespace SqlImage.Sql

/-- Where a statement stands: how many characters come before it, how many it has, and the
position of its first one. -/
structure Span where
  start : Nat
  length : Nat
  position : Position
deriving DecidableEq, Repr

namespace Span

/-- The characters of a span. -/
def text (span : Span) (whole : List Char) : Option (List Char) :=
  Text.slice whole span.start span.length

/-- The offset at which the first of some tokens begins, or the end of the text if there is
none. -/
def offsetOf (index : LineIndex) : List Located → Nat
  | [] => index.total
  | head :: _ => index.offset head.position

/-- The span from a token to the offset of its end, if one is open. -/
def close (index : LineIndex) : Option (Located × Nat) → List Span
  | none => []
  | some (first, stop) =>
    let start := index.offset first.position
    [⟨start, stop - start, first.position⟩]

/-- The spans of the tokens that are left. `current` holds the first token of the span that is
open and the end of its last token. -/
def ofTokens (index : LineIndex) : (current : Option (Located × Nat)) → List Located →
    List Span
  | current, [] => close index current
  | current, head :: tail =>
    match head.token with
    | .symbol .semicolon => close index current ++ ofTokens index none tail
    | .blank => ofTokens index current tail
    | _ =>
      let first := (current.map (·.1)).getD head
      ofTokens index (some (first, offsetOf index tail)) tail

end Span

/-- The spans of the statements of a text, or the error of its first token that does not end. -/
def split (text : List Char) : Except LexError (List Span) :=
  (tokenize text).map (Span.ofTokens (.ofText text) none)

end SqlImage.Sql
