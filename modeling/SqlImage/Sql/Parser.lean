/-
This file holds the parsers of SQL as functions on tokens. A parser gives a value
or an error, and either way the tokens that are left, because where a failed
parser stopped can matter to the one that tried it. Every parser knows how much
deeper constructs may nest in it, so that the nesting of a text is limited.
-/

import SqlImage.Sql.Lexer

namespace SqlImage.Sql

/-! ### Errors -/

/-- Why tokens are no SQL. -/
inductive ParseError where
  /-- Something else was expected in place of a token, or of the end. -/
  | expected (what : String) (found : Option Located)
  /-- Anything else, with the position that is to blame if there is one. -/
  | other (text : String) (position : Option Position)
  /-- Constructs nest too deeply. -/
  | tooDeep
deriving DecidableEq

namespace ParseError

/-- The error in words. The end of a text has no position. -/
def message : ParseError → String
  | .expected what none => "Expected " ++ what ++ ", found: EOF"
  | .expected what (some found) =>
    "Expected " ++ what ++ ", found: " ++ found.token.text ++ positionText found.position
  | .other text none => text
  | .other text (some position) => text ++ positionText position
  | .tooDeep => "recursion limit exceeded"

end ParseError

/-! ### Parsers -/

/-- What a parser gives: a value or an error, and the tokens that are left. -/
inductive Reply (α : Type) where
  | ok (value : α) (rest : List Located)
  | error (error : ParseError) (rest : List Located)

/-- The tokens that are left, whatever is given. -/
def Reply.rest {α : Type} : Reply α → List Located
  | .ok _ rest => rest
  | .error _ rest => rest

/-- A parser. `room` is how much deeper constructs may nest. Tokens are only taken from the front,
so those that are left are the last ones of those that were there. -/
structure Parser (α : Type) where
  run : (room : Nat) → List Located → Reply α
  rest_suffix : ∀ room tokens, (run room tokens).rest <:+ tokens

namespace Parser

variable {α β : Type}

instance : Monad Parser where
  pure value := ⟨fun _ tokens => .ok value tokens, fun _ tokens => tokens.suffix_refl⟩
  bind parser next := {
    run := fun room tokens =>
      match parser.run room tokens with
      | .ok value rest => (next value).run room rest
      | .error error rest => .error error rest
    rest_suffix := fun room tokens => by
      have taken := parser.rest_suffix room tokens
      split
      · rename_i value rest found
        rw [found] at taken
        exact ((next value).rest_suffix room rest).trans taken
      · rename_i error rest found
        rw [found] at taken
        exact taken }

/-- The parser that fails. -/
def fail (error : ParseError) : Parser α where
  run _ tokens := .error error tokens
  rest_suffix _ tokens := tokens.suffix_refl

instance : Inhabited (Parser α) := ⟨fail .tooDeep⟩

/-- The parser that blames the next token. -/
def expected (what : String) : Parser α where
  run _ tokens := .error (.expected what tokens.head?) tokens
  rest_suffix _ tokens := tokens.suffix_refl

/-- The parser that blames a token that was taken already. -/
def expectedAt (what : String) (found : Option Located) : Parser α := fail (.expected what found)

/-- The parser that fails with a text of its own, at a token. -/
def failAt (text : String) (found : Option Located) : Parser α :=
  fail (.other text (found.map Located.position))

/-- The parser that fails with a text of its own and no position. -/
def failWith (text : String) : Parser α := fail (.other text none)

/-! ### Looking ahead -/

/-- What can be seen of the tokens without taking any. -/
def look (seen : List Located → α) : Parser α where
  run _ tokens := .ok (seen tokens) tokens
  rest_suffix _ tokens := tokens.suffix_refl

/-- The next token with its position. -/
def peekLocated : Parser (Option Located) := look List.head?

/-- The next token. -/
def peek : Parser (Option Token) := look fun tokens => tokens.head?.map Located.token

/-- The token that stands so many places behind the next one. -/
def peekAt (places : Nat) : Parser (Option Token) :=
  look fun tokens => tokens[places]?.map Located.token

/-- The last token of the text. -/
def peekLast : Parser (Option Located) := look List.getLast?

/-- Whether the next token is a symbol. -/
def atSymbol (sign : Symbol) : Parser Bool := return (← peek) = some (.symbol sign)

/-- Whether the next token is one of some keywords. -/
def atOneOf (choices : List Keyword) : Parser Bool :=
  return ((← peek).bind Token.keyword?).any (· ∈ choices)

/-! ### Taking tokens -/

/-- Takes the next token if there is one. -/
def next : Parser (Option Located) where
  run _ tokens := .ok tokens.head? tokens.tail
  rest_suffix _ tokens := tokens.tail_suffix

/-- Takes the next token if it is there and passes a test. What the test makes of it is given. -/
def accept (test : Token → Option α) : Parser (Option α) where
  run _ tokens :=
    match tokens with
    | [] => .ok none []
    | head :: tail =>
      match test head.token with
      | some value => .ok (some value) tail
      | none => .ok none (head :: tail)
  rest_suffix _ tokens := by
    cases tokens with
    | nil => exact List.suffix_refl []
    | cons head tail =>
      dsimp only
      split
      · exact List.suffix_cons head tail
      · exact List.suffix_refl (head :: tail)

/-- Takes a symbol if it is next. -/
def symbol (sign : Symbol) : Parser Bool :=
  return (← accept fun token => if token = .symbol sign then some () else none).isSome

/-- Takes a keyword if it is next. -/
def keyword (expected : Keyword) : Parser Bool :=
  return (← accept fun token => if token.keyword? = some expected then some () else none).isSome

/-- Takes one of some keywords if it is next. -/
def oneOf (choices : List Keyword) : Parser (Option Keyword) :=
  accept fun token => token.keyword?.filter (· ∈ choices)

/-- The tokens behind some keywords, if they begin with these. -/
def dropKeywords : List Keyword → List Located → Option (List Located)
  | [], tokens => some tokens
  | _ :: _, [] => none
  | expected :: more, head :: tail =>
    if head.token.keyword? = some expected then dropKeywords more tail else none

theorem dropKeywords_suffix {expected : List Keyword} {tokens rest : List Located}
    (found : dropKeywords expected tokens = some rest) : rest <:+ tokens := by
  fun_induction dropKeywords expected tokens with
  | case1 =>
    cases found
    exact List.suffix_refl _
  | case2 => cases found
  | case3 expected more head tail same inductionHypothesis =>
    exact (inductionHypothesis found).trans (List.suffix_cons head tail)
  | case4 => cases found

/-- Takes some keywords if all of them are next, one after the other. -/
def keywords (expected : List Keyword) : Parser Bool where
  run _ tokens :=
    match dropKeywords expected tokens with
    | some rest => .ok true rest
    | none => .ok false tokens
  rest_suffix _ tokens := by
    split
    · exact dropKeywords_suffix ‹_›
    · exact tokens.suffix_refl

/-- Takes a symbol that must be next. -/
def expectSymbol (sign : Symbol) : Parser Unit := do
  unless ← symbol sign do expected sign.text

/-- Takes a keyword that must be next. -/
def expectKeyword (keyword : Keyword) : Parser Unit := do
  unless ← Parser.keyword keyword do expected keyword.spelling

/-- Takes keywords that must be next, one after the other. -/
def expectKeywords : List Keyword → Parser Unit
  | [] => return ()
  | first :: rest => do
    expectKeyword first
    expectKeywords rest

/-- Takes one of some keywords, which must be next. -/
def expectOneOf (choices : List Keyword) : Parser Keyword := do
  match ← oneOf choices with
  | some found => return found
  | none => expected ("one of " ++ " or ".intercalate (choices.map Keyword.spelling))

/-! ### Combinations -/

/-- A parser that is made only once it runs. -/
def delayed (parser : Unit → Parser α) : Parser α where
  run room tokens := (parser ()).run room tokens
  rest_suffix room tokens := (parser ()).rest_suffix room tokens

/-- A parser that is told how many tokens there are. -/
def counted (parser : (count : Nat) → Parser α) : Parser α where
  run room tokens := (parser tokens.length).run room tokens
  rest_suffix room tokens := (parser tokens.length).rest_suffix room tokens

/-- Tries a parser, and takes nothing if it fails. -/
def attempt (parser : Parser α) : Parser (Option α) where
  run room tokens :=
    match parser.run room tokens with
    | .ok value rest => .ok (some value) rest
    | .error _ _ => .ok none tokens
  rest_suffix room tokens := by
    have taken := parser.rest_suffix room tokens
    split
    · rename_i value rest found
      rw [found] at taken
      exact taken
    · exact tokens.suffix_refl

/-- What a parser comes to, a value or an error. If it fails, the tokens that it took stay
taken. -/
def outcome (parser : Parser α) : Parser (Except ParseError α) where
  run room tokens :=
    match parser.run room tokens with
    | .ok value rest => .ok (.ok value) rest
    | .error error rest => .ok (.error error) rest
  rest_suffix room tokens := by
    have taken := parser.rest_suffix room tokens
    split <;>
    · rename_i rest found
      rw [found] at taken
      exact taken

/-- Tries a parser. If it fails, the tokens that it took stay taken. -/
def tolerate (parser : Parser α) : Parser (Option α) := return (← outcome parser).toOption

/-- Runs a parser, and takes nothing if it gives nothing. -/
def orRewind (parser : Parser (Option α)) : Parser (Option α) where
  run room tokens :=
    match parser.run room tokens with
    | .ok none _ => .ok none tokens
    | reply => reply
  rest_suffix room tokens := by
    split
    · exact tokens.suffix_refl
    · exact parser.rest_suffix room tokens

/-- A parser one level deeper, if there is room. -/
def deeper (parser : Parser α) : Parser α where
  run room tokens :=
    match room with
    | 0 => .error .tooDeep tokens
    | room + 1 => parser.run room tokens
  rest_suffix room tokens := by
    cases room with
    | zero => exact tokens.suffix_refl
    | succ room => exact parser.rest_suffix room tokens

/-- The value of a parser that is run only if a condition holds. -/
def given (condition : Parser Bool) (parser : Parser α) : Parser (Option α) := do
  if ← condition then return some (← parser) else return none

/-- Repeats a step on a state until it gives nothing, so many times at most. -/
def iterate (step : α → Parser (Option α)) : (fuel : Nat) → α → Parser α
  | 0, state => return state
  | fuel + 1, state => do
    match ← step state with
    | none => return state
    | some state => iterate step fuel state

/-- Repeats a step on a state until it gives nothing. Every step but the last takes a token, so
there are no more steps than tokens and one. -/
def loop (start : α) (step : α → Parser (Option α)) : Parser α :=
  counted fun count => iterate step (count + 1) start

/-- The values that a parser gives until it gives none. -/
def many (parser : Parser (Option α)) : Parser (List α) :=
  return (← loop [] fun found => do return (← parser).map (· :: found)).reverse

/-- One value, and more of them as long as a separator is taken. -/
def sepBy (separator : Parser Bool) (parser : Parser α) : Parser (List α) := do
  let first ← parser
  let rest ← many do if ← separator then return some (← parser) else return none
  return first :: rest

/-- Values with commas between them, at least one. -/
def commaSeparated (parser : Parser α) : Parser (List α) := sepBy (symbol .comma) parser

/-- What stands in parentheses. -/
def parenthesized (parser : Parser α) : Parser α := do
  expectSymbol .leftParen
  let value ← parser
  expectSymbol .rightParen
  return value

end Parser

end SqlImage.Sql
