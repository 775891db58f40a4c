/-
This file cuts a text into tokens. The kind of a token is told by its first
characters; each token is read as far as it goes, and the next one begins right
after it, so that the tokens make up the text without gaps. A string, a quoted
word, a comment or a dollar string that does not end is an error at a place of its
own.
-/

import SqlImage.Sql.Cursor
import SqlImage.Sql.Token
import SqlImage.Text.Alphabetic
import SqlImage.Text.Blank
import SqlImage.Text.Numeric

namespace SqlImage.Sql

open Text (isAlphabetic isBlank isNumeric)

/-! ### Errors -/

/-- Why a text cannot be cut into tokens. -/
inductive LexCause where
  | unterminatedString
  | unterminatedEscapedString
  | unclosedIdentifier (quote : Char)
  | unclosedComment
  | unterminatedDollarString
  | otherDollarTag (tag : String)
  | missingDollar
  | missingDollarTag
deriving DecidableEq, Repr

/-- The words for a cause. -/
def LexCause.message : LexCause → String
  | .unterminatedString => "Unterminated string literal"
  | .unterminatedEscapedString => "Unterminated encoded string literal"
  | .unclosedIdentifier quote =>
    "Expected close delimiter '" ++ quote.toString ++ "' before EOF."
  | .unclosedComment => "Unexpected EOF while in a multi-line comment"
  | .unterminatedDollarString => "Unterminated dollar-quoted string"
  | .otherDollarTag tag => "Unterminated dollar-quoted string at or near \"" ++ tag ++ "\""
  | .missingDollar => "Unterminated dollar-quoted string, expected $"
  | .missingDollarTag => "Unterminated dollar-quoted, expected $"

/-- An error of the lexer and its place. -/
structure LexError where
  cause : LexCause
  position : Position
deriving DecidableEq, Repr

/-- A place as it stands at the end of a message. -/
def positionText (position : Position) : String :=
  " at Line: " ++ toString position.line ++ ", Column " ++ toString position.column

/-- The words for an error. -/
def LexError.message (error : LexError) : String :=
  error.cause.message ++ positionText error.position

/-- What one token is read as: the token and the cursor after it. -/
abbrev Lexed (α : Type) := Except LexError (α × Cursor)

namespace Lexer

/-! ### Words -/

/-- Whether a character may start a word. -/
def startsWord (character : Char) : Bool :=
  isAlphabetic character || character = '_' || character = '#' || character = '@'

/-- Whether a character may go on in a word. -/
def goesOnInWord (character : Char) : Bool :=
  isAlphabetic character || character.isDigit || character = '@' || character = '$' ||
    character = '#' || character = '_'

/-- A word whose first characters have been read. -/
def word (first : List Char) (cursor : Cursor) : Token × Cursor :=
  let (others, cursor) := cursor.span goesOnInWord
  (.word (.plain (first ++ others)), cursor)

/-- The characters up to a closing quote, where a doubled quote stands for one, and the cursor
past the quote. There are none if the quote is missing. -/
def quotedFrom (quote : Char) : (rest : List Char) → Position → Option (List Char × Cursor)
  | [], _ => none
  | [character], position =>
    if character = quote then some ([], ⟨[], position.advance character⟩) else none
  | character :: second :: rest, position =>
    if character = quote then
      if second = quote then
        (quotedFrom quote rest ((position.advance character).advance second)).map
          fun (content, cursor) => (quote :: content, cursor)
      else some ([], ⟨second :: rest, position.advance character⟩)
    else
      (quotedFrom quote (second :: rest) (position.advance character)).map
        fun (content, cursor) => (character :: content, cursor)

/-- The content of a string or a word whose opening quote is next. -/
def quoted (quote : Char) (cursor : Cursor) : Option (List Char × Cursor) :=
  let opened := cursor.skip
  quotedFrom quote opened.rest opened.position

/-- A word between quotes. -/
def quotedWord (quote : Char) (cursor : Cursor) : Lexed Token :=
  match quoted quote cursor with
  | some (content, after) => .ok (.word ⟨String.ofList content, some quote, none⟩, after)
  | none => .error ⟨.unclosedIdentifier quote, cursor.position⟩

/-! ### Strings -/

/-- A string without escapes, whose opening quote is next. -/
def string (style : StringStyle) (quote : Char) (cursor : Cursor) : Lexed Token :=
  match quoted quote cursor with
  | some (content, after) => .ok (.string style (String.ofList content), after)
  | none => .error ⟨.unterminatedString, cursor.position⟩

/-- The character that a letter stands for after a backslash. -/
def escapedLetter : Char → Char
  | 'n' => '\n'
  | 'r' => '\r'
  | 't' => '\t'
  | letter => letter

/-- The characters of a string with escapes up to its closing quote, and the cursor past the
quote; `escaped` tells that a backslash came just before. A backslash before any other letter is
left out. -/
def escapedFrom : (escaped : Bool) → (rest : List Char) → Position →
    Option (List Char × Cursor)
  | _, [], _ => none
  | escaped, [character], position =>
    if character = '\'' ∧ ¬ escaped then some ([], ⟨[], position.advance character⟩) else none
  | escaped, character :: second :: rest, position =>
    let onward := position.advance character
    if escaped then
      (escapedFrom false (second :: rest) onward).map
        fun (content, cursor) => (escapedLetter character :: content, cursor)
    else if character = '\'' then
      if second = '\'' then
        (escapedFrom false rest (onward.advance second)).map
          fun (content, cursor) => ('\'' :: content, cursor)
      else some ([], ⟨second :: rest, onward⟩)
    else if character = '\\' then escapedFrom true (second :: rest) onward
    else
      (escapedFrom false (second :: rest) onward).map
        fun (content, cursor) => (character :: content, cursor)

/-- A string with escapes. The letter before its opening quote is next, and an error is at the
letter. -/
def escapedString (cursor : Cursor) : Lexed Token :=
  let opened := cursor.skip.skip
  match escapedFrom false opened.rest opened.position with
  | some (content, after) => .ok (.string .escaped (String.ofList content), after)
  | none => .error ⟨.unterminatedEscapedString, cursor.position⟩

/-! ### Dollar strings -/

/-- The characters up to two dollar signs in a row, and the cursor past them; `dollar` tells that
a dollar sign came just before. One that has another character after it belongs to the
content. -/
def dollarsFrom : (dollar : Bool) → (rest : List Char) → Position →
    Except Position (List Char × Cursor)
  | _, [], position => .error position
  | dollar, character :: rest, position =>
    let onward := position.advance character
    if character = '$' then
      if dollar then .ok ([], ⟨rest, onward⟩) else dollarsFrom true rest onward
    else
      (dollarsFrom false rest onward).map fun (content, cursor) =>
        (if dollar then '$' :: character :: content else character :: content, cursor)

/-- The cursor past the characters of a closing tag, or past the first one that differs. -/
def closingTag (tag : String) : (expected : List Char) → Cursor → Except LexError Cursor
  | [], cursor => .ok cursor
  | character :: more, cursor =>
    if cursor.at? character then closingTag tag more cursor.skip
    else .error ⟨.otherDollarTag tag, cursor.skip.position⟩

/-- A string between dollar signs or a placeholder that begins with one. The dollar sign is
next. -/
def dollar (cursor : Cursor) : Lexed Token :=
  let cursor := cursor.skip
  if cursor.at? '$' then
    let opened := cursor.skip
    match dollarsFrom false opened.rest opened.position with
    | .ok (content, after) => .ok (.dollarString none (String.ofList content), after)
    | .error position => .error ⟨.unterminatedDollarString, position⟩
  else
    let (tag, cursor) := cursor.span fun character =>
      isAlphabetic character || isNumeric character || character = '_'
    if cursor.at? '$' then
      let (content, cursor) := cursor.skip.span (· ≠ '$')
      if cursor.at? '$' then
        match closingTag (String.ofList tag) tag cursor.skip with
        | .error error => .error error
        | .ok cursor =>
          if cursor.at? '$' then
            .ok (.dollarString (some (String.ofList tag)) (String.ofList content), cursor.skip)
          else .error ⟨.missingDollar, cursor.position⟩
      else .error ⟨.missingDollarTag, cursor.position⟩
    else .ok (.placeholder ("$" ++ String.ofList tag), cursor)

/-! ### Comments -/

/-- The cursor past a comment that runs to the end of the line, the newline included. -/
def lineComment (cursor : Cursor) : Cursor :=
  (cursor.span (· ≠ '\n')).2.skip

/-- The cursor past a comment between marks; `depth` more comments are open around the one at
hand, and `last` is the character read before. A mark is told by two characters in a row, so one
character may end a mark and begin the next. -/
def commentFrom : (depth : Nat) → (last : Char) → (rest : List Char) → Position →
    Except LexError Cursor
  | _, _, [], position => .error ⟨.unclosedComment, position⟩
  | depth, last, character :: rest, position =>
    let onward := position.advance character
    if last = '/' ∧ character = '*' then commentFrom (depth + 1) character rest onward
    else if last = '*' ∧ character = '/' then
      match depth with
      | 0 => .ok ⟨rest, onward⟩
      | depth + 1 => commentFrom depth character rest onward
    else commentFrom depth character rest onward

/-! ### Numbers -/

/-- Whether a character is a hexadecimal digit. -/
def isHexDigit (character : Char) : Bool :=
  character.isDigit || ('a' ≤ character && character ≤ 'f') ||
    ('A' ≤ character && character ≤ 'F')

/-- The exponent at the front, which needs a digit after its letter and its sign, and the cursor
past it. -/
def exponent (cursor : Cursor) : List Char × Cursor :=
  let after (mark : List Char) (cursor' : Cursor) : List Char × Cursor :=
    match cursor'.span Char.isDigit with
    | ([], _) => ([], cursor)
    | (digits, cursor) => (mark ++ digits, cursor)
  match cursor.rest with
  | letter :: sign :: _ =>
    if letter = 'e' ∨ letter = 'E' then
      if sign = '+' ∨ sign = '-' then after [letter, sign] cursor.skip.skip
      else after [letter] cursor.skip
    else ([], cursor)
  | _ => ([], cursor)

/-- A number, a hexadecimal string without quotes, or a lone period. -/
def number (cursor : Cursor) : Token × Cursor :=
  let (whole, cursor) := cursor.span Char.isDigit
  if whole = ['0'] ∧ cursor.at? 'x' then
    let (digits, cursor) := cursor.skip.span isHexDigit
    (.string .hexadecimal (String.ofList digits), cursor)
  else
    let (point, cursor) := if cursor.at? '.' then (['.'], cursor.skip) else ([], cursor)
    let (fraction, cursor) := cursor.span Char.isDigit
    let mantissa := whole ++ point ++ fraction
    if mantissa = ['.'] then (.symbol .period, cursor)
    else
      let (power, cursor) := exponent cursor
      let long := cursor.at? 'L'
      (.number (String.ofList (mantissa ++ power)) long, if long then cursor.skip else cursor)

/-! ### Symbols -/

/-- The symbol at the front, the longest one if there are several, and the cursor past it. -/
def symbol? (cursor : Cursor) : Option (Token × Cursor) :=
  (Symbol.table.find? fun entry => entry.1.toList.isPrefixOf cursor.rest).map
    fun (spelling, symbol) => (.symbol symbol, cursor.skipMany spelling.length)

/-- A token that begins with a hash sign. Unless a symbol or a space follows, the sign starts a
word together with the next character, whatever that is. -/
def hash (cursor : Cursor) : Token × Cursor :=
  let after := cursor.skip
  match after.rest with
  | [] => (.symbol .hash, after)
  | second :: _ =>
    if second = '-' ∨ second = '>' then
      (symbol? cursor).getD (.symbol .hash, after)
    else if second = ' ' then (.symbol .hash, after)
    else word ['#', second] after.skip

/-- A token that begins with an at sign. Unless a symbol or a space follows, one or two signs
start a word together with the next character, whatever that is. -/
def atSign (cursor : Cursor) : Token × Cursor :=
  let after := cursor.skip
  match after.rest with
  | [] => (.symbol .at, after)
  | second :: _ =>
    if second = '>' then (.symbol .atArrow, after.skip)
    else if second = '?' then (.symbol .atQuestion, after.skip)
    else if second = '@' then
      match after.skip.rest with
      | [] => (.symbol .doubleAt, after.skip)
      | third :: _ =>
        if third = ' ' then (.symbol .doubleAt, after.skip)
        else word ['@', '@', third] after.skip.skip
    else if second = ' ' then (.symbol .at, after)
    else word ['@', second] after.skip

/-! ### Tokens -/

/-- A letter that makes a string of a kind if a quote follows, and starts a word otherwise. -/
def lettered (letter : Char) (cursor : Cursor) : Lexed Token :=
  let after := cursor.skip
  let style? : Option (StringStyle × Char) :=
    match letter, after.next? with
    | 'B', some '\'' | 'b', some '\'' => some (.bytes, '\'')
    | 'B', some '"' | 'b', some '"' => some (.doubleQuotedBytes, '"')
    | 'R', some '\'' | 'r', some '\'' => some (.raw, '\'')
    | 'R', some '"' | 'r', some '"' => some (.raw, '"')
    | 'N', some '\'' | 'n', some '\'' => some (.national, '\'')
    | 'X', some '\'' | 'x', some '\'' => some (.hexadecimal, '\'')
    | 'E', some '\'' | 'e', some '\'' => some (.escaped, '\'')
    | _, _ => none
  match style? with
  | some (.escaped, _) => escapedString cursor
  | some (style, quote) => string style quote after
  | none => .ok (word [letter] after)

/-- Whether a letter makes a string of a kind if a quote follows. -/
def marksString (letter : Char) : Bool :=
  letter ∈ ['B', 'b', 'R', 'r', 'N', 'n', 'X', 'x', 'E', 'e']

/-- The token at the front of a text that begins with `first`. -/
def token (first : Char) (cursor : Cursor) : Lexed Token :=
  if first = '\r' then
    .ok (.blank, if cursor.skip.at? '\n' then cursor.skip.skip else cursor.skip)
  else if first = ' ' ∨ first = '\t' ∨ first = '\n' then .ok (.blank, cursor.skip)
  else if marksString first then lettered first cursor
  else if first = '\'' then string .plain '\'' cursor
  else if first = '"' ∨ first = '`' then quotedWord first cursor
  else if first.isDigit ∨ first = '.' then .ok (number cursor)
  else if first = '-' ∧ cursor.skip.at? '-' then .ok (.blank, lineComment cursor.skip.skip)
  else if first = '/' ∧ cursor.skip.at? '*' then
    let opened := cursor.skip.skip
    (commentFrom 0 ' ' opened.rest opened.position).map (Token.blank, ·)
  else if first = '#' then .ok (hash cursor)
  else if first = '@' then .ok (atSign cursor)
  else if first = '?' then
    let (digits, cursor) := cursor.skip.span isNumeric
    .ok (.placeholder ("?" ++ String.ofList digits), cursor)
  else if startsWord first then .ok (word [first] cursor.skip)
  else if first = '$' then dollar cursor
  else
    match symbol? cursor with
    | some found => .ok found
    | none =>
      .ok (if isBlank first then .blank else .character first, cursor.skip)

/-- The tokens from a cursor on. Every token takes a character, so as many steps as there are
characters are enough. -/
def tokensFrom : (fuel : Nat) → Cursor → Except LexError (List Located)
  | 0, _ => .ok []
  | fuel + 1, cursor =>
    match cursor.rest with
    | [] => .ok []
    | first :: _ =>
      match token first cursor with
      | .error error => .error error
      | .ok (read, after) =>
        (tokensFrom fuel after).map (⟨read, cursor.position⟩ :: ·)

end Lexer

/-- The tokens of a text, blanks included, or the first error. -/
def tokenize (text : List Char) : Except LexError (List Located) :=
  Lexer.tokensFrom text.length (.start text)

end SqlImage.Sql
