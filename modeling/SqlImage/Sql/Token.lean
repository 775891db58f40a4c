/-
This file holds the tokens of SQL and how they are written in a message: words as
they stand in the text, strings with their decoded content between quotes.
-/

import SqlImage.Sql.Keyword
import SqlImage.Text.Position

namespace SqlImage.Sql

/-! ### Symbols -/

/-- The tokens made of punctuation. -/
inductive Symbol where
  | comma
  | doubleEqual
  | equal
  | notEqual
  | less
  | greater
  | lessEqual
  | greaterEqual
  | spaceship
  | plus
  | minus
  | asterisk
  | slash
  | doubleSlash
  | percent
  | doublePipe
  | leftParen
  | rightParen
  | period
  | colon
  | doubleColon
  | assign
  | semicolon
  | backslash
  | leftBracket
  | rightBracket
  | ampersand
  | doubleAmpersand
  | pipe
  | caret
  | caretAt
  | leftBrace
  | rightBrace
  | fatArrow
  | arrow
  | longArrow
  | hash
  | hashArrow
  | hashLongArrow
  | hashMinus
  | tilde
  | tildeAsterisk
  | doubleTilde
  | doubleTildeAsterisk
  | bang
  | doubleBang
  | bangTilde
  | bangTildeAsterisk
  | bangDoubleTilde
  | bangDoubleTildeAsterisk
  | shiftLeft
  | shiftRight
  | squareRoot
  | cubeRoot
  | at
  | doubleAt
  | atArrow
  | arrowAt
  | atQuestion
deriving DecidableEq, Repr

namespace Symbol

/-- The symbols with their spelling. Where one spelling begins with another, the longer one comes
first. -/
def table : List (String × Symbol) := [
  ("!~~*", .bangDoubleTildeAsterisk),
  ("!~~", .bangDoubleTilde), ("!~*", .bangTildeAsterisk), ("->>", .longArrow),
  ("#>>", .hashLongArrow), ("<=>", .spaceship), ("~~*", .doubleTildeAsterisk), ("||/", .cubeRoot),
  ("!=", .notEqual), ("!!", .doubleBang), ("!~", .bangTilde), ("->", .arrow), ("#>", .hashArrow),
  ("#-", .hashMinus), ("<=", .lessEqual), ("<>", .notEqual), ("<<", .shiftLeft), ("<@", .arrowAt),
  (">=", .greaterEqual), (">>", .shiftRight), ("::", .doubleColon), (":=", .assign),
  ("=>", .fatArrow), ("==", .doubleEqual), ("&&", .doubleAmpersand), ("^@", .caretAt),
  ("//", .doubleSlash), ("|/", .squareRoot), ("||", .doublePipe), ("~*", .tildeAsterisk),
  ("~~", .doubleTilde), ("@>", .atArrow), ("@?", .atQuestion), ("@@", .doubleAt),
  ("!", .bang), ("#", .hash), ("%", .percent), ("&", .ampersand), ("(", .leftParen),
  (")", .rightParen), ("*", .asterisk), ("+", .plus), (",", .comma), ("-", .minus),
  (".", .period), ("/", .slash), (":", .colon), (";", .semicolon), ("<", .less), ("=", .equal),
  (">", .greater), ("@", .at), ("[", .leftBracket), ("\\", .backslash), ("]", .rightBracket),
  ("^", .caret), ("\x7b", .leftBrace), ("|", .pipe), ("\x7d", .rightBrace), ("~", .tilde)]

/-- How a symbol is written. Two spellings stand for inequality, and it is written with angle
brackets. -/
def text (symbol : Symbol) : String :=
  match symbol with
  | .notEqual => "<>"
  | symbol => ((table.find? (·.2 = symbol)).map (·.1)).getD ""

end Symbol

/-! ### Words and strings -/

/-- A word, and the quote it stands in if it does. -/
structure Word where
  value : String
  quote : Option Char
  keyword : Option Keyword
deriving DecidableEq

namespace Word

/-- A word without quotes. -/
def plain (characters : List Char) : Word :=
  ⟨String.ofList characters, none, Keyword.ofWord? characters⟩

/-- A word as it stands in the text, save that a doubled quote is single. -/
def text (word : Word) : String :=
  match word.quote with
  | none => word.value
  | some quote => quote.toString ++ word.value ++ quote.toString

end Word

/-- The kinds of strings, told by what stands before the opening quote. -/
inductive StringStyle where
  | plain
  | national
  | escaped
  | hexadecimal
  | bytes
  | doubleQuotedBytes
  | raw
deriving DecidableEq, Repr

namespace StringStyle

/-- A string of a kind as it is written, the content just as it is. -/
def write (style : StringStyle) (content : String) : String :=
  match style with
  | .plain => "'" ++ content ++ "'"
  | .national => "N'" ++ content ++ "'"
  | .escaped => "E'" ++ content ++ "'"
  | .hexadecimal => "X'" ++ content ++ "'"
  | .bytes => "B'" ++ content ++ "'"
  | .doubleQuotedBytes => "B\"" ++ content ++ "\""
  | .raw => "R'" ++ content ++ "'"

end StringStyle

/-- A string between dollar signs, with the tag that stands between the signs. -/
def dollarText (tag : Option String) (content : String) : String :=
  let mark := "$" ++ tag.getD "" ++ "$"
  mark ++ content ++ mark

/-! ### Tokens -/

/-- A token. Comments are blank like white space. -/
inductive Token where
  | word (word : Word)
  /-- A number as written, without the letter that may mark it as long. -/
  | number (digits : String) (long : Bool)
  | string (style : StringStyle) (content : String)
  | dollarString (tag : Option String) (content : String)
  | placeholder (name : String)
  | symbol (symbol : Symbol)
  /-- A character that is no part of any other token. -/
  | character (character : Char)
  | blank
deriving DecidableEq

namespace Token

/-- A token as it is written in a message. -/
def text : Token → String
  | .word written => written.text
  | .number digits long => if long then digits ++ "L" else digits
  | .string style content => style.write content
  | .dollarString tag content => dollarText tag content
  | .placeholder name => name
  | .symbol sign => sign.text
  | .character other => other.toString
  | .blank => " "

/-- The keyword that a token is, if it is one. -/
def keyword? : Token → Option Keyword
  | .word written => written.keyword
  | _ => none

end Token

/-- A token with the position of its first character. -/
structure Located where
  token : Token
  position : Position
deriving DecidableEq

end SqlImage.Sql
