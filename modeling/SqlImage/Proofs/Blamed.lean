/-
This file says which place is blamed for a text that is rejected. The message of the
error is searched for a place, and its first one counts. The words of the lexer name
no place, so its errors are where it met them. An error of the parser is where it is
as long as its words name no place, but they quote what was found, and a quoted string
may hold any place: that place is then blamed instead of the own one.
-/

import SqlImage.Proofs.Named
import SqlImage.Proofs.Recounted

namespace SqlImage

open Text.Located

namespace Sql

/-! ### Errors of the lexer -/

namespace Lexer

variable {α : Type} {read other : Except LexError α}

/-- If the reading fails, then there is no colon in the words for its error. -/
def Colonless (read : Except LexError α) : Prop :=
  ∀ error, read = .error error → ':' ∉ error.cause.message.toList

theorem colonless_ok (value : α) : Colonless (.ok value : Except LexError α) := nofun

theorem colonless_error {cause : LexCause} (noColon : ':' ∉ cause.message.toList)
    (position : Position) : Colonless (.error ⟨cause, position⟩ : Except LexError α) := by
  rintro _ ⟨⟩
  exact noColon

theorem Colonless.ite {condition : Prop} [Decidable condition]
    (first : condition → Colonless read) (second : Colonless other) :
    Colonless (if condition then read else other) := by
  split
  · exact first ‹_›
  · exact second

theorem Colonless.map {β : Type} (colonless : Colonless read) (change : α → β) :
    Colonless (read.map change) := by
  intro error failed
  cases read with
  | error cause =>
    cases failed
    exact colonless error rfl
  | ok value => cases failed

theorem colonless_string (style : StringStyle) (quote : Char) (cursor : Cursor) :
    Colonless (string style quote cursor) := by
  unfold string
  split
  · exact colonless_ok _
  · exact colonless_error (by decide) _

theorem colonless_escapedString (cursor : Cursor) : Colonless (escapedString cursor) := by
  unfold escapedString
  dsimp only
  split
  · exact colonless_ok _
  · exact colonless_error (by decide) _

theorem colonless_lettered (letter : Char) (cursor : Cursor) :
    Colonless (lettered letter cursor) := by
  unfold lettered
  dsimp only
  split
  · exact colonless_escapedString cursor
  · exact colonless_string _ _ _
  · exact colonless_ok _

theorem colonless_quotedWord {quote : Char} (mark : quote = '"' ∨ quote = '`')
    (cursor : Cursor) : Colonless (quotedWord quote cursor) := by
  unfold quotedWord
  split
  · exact colonless_ok _
  · refine colonless_error ?_ _
    obtain rfl | rfl := mark
    · decide
    · decide

theorem colonless_commentFrom (depth : Nat) (last : Char) (rest : List Char)
    (position : Position) : Colonless (commentFrom depth last rest position) := by
  fun_induction commentFrom depth last rest position with
  | case1 => exact colonless_error (by decide) _
  | case2 => assumption
  | case3 => exact colonless_ok _
  | case4 => assumption
  | case5 => assumption

/-- A tag is quoted, so it must hold no colon itself. -/
theorem colonless_closingTag {tag : String} (noColon : ':' ∉ tag.toList) (expected : List Char)
    (cursor : Cursor) : Colonless (closingTag tag expected cursor) := by
  induction expected generalizing cursor with
  | nil => exact colonless_ok _
  | cons character more inductionHypothesis =>
    have before : ':' ∉ "Unterminated dollar-quoted string at or near \"".toList := by decide
    have behind : ':' ∉ "\"".toList := by decide
    have noneInside : ':' ∉ (LexCause.otherDollarTag tag).message.toList := by
      have message : (LexCause.otherDollarTag tag).message =
        "Unterminated dollar-quoted string at or near \"" ++ tag ++ "\"" := rfl
      rw [message, String.toList_append, String.toList_append]
      exact List.not_mem_append (List.not_mem_append before noColon) behind
    rw [closingTag]
    exact .ite (fun _ => inductionHypothesis _) (colonless_error noneInside _)

theorem mem_spanFrom {test : Char → Bool} {rest : List Char} {position : Position}
    {character : Char} (member : character ∈ (Cursor.spanFrom test rest position).1) :
    test character = true := by
  induction rest generalizing position with
  | nil => cases member
  | cons head rest inductionHypothesis =>
    rw [Cursor.spanFrom] at member
    split at member
    · obtain rfl | later := List.mem_cons.mp member
      · assumption
      · exact inductionHypothesis later
    · cases member

theorem colonless_dollar (cursor : Cursor) : Colonless (dollar cursor) := by
  unfold dollar
  dsimp only
  refine .ite (fun _ => ?_) (.ite (fun _ => .ite (fun _ => ?_) ?_) (colonless_ok _))
  · split
    · exact colonless_ok _
    · exact colonless_error (by decide) _
  · split
    · rename_i failed
      rintro _ ⟨⟩
      refine colonless_closingTag (fun member => ?_) _ _ _ failed
      rw [String.toList_ofList] at member
      exact absurd (mem_spanFrom member) (by decide)
    · exact .ite (fun _ => colonless_ok _) (colonless_error (by decide) _)
  · exact colonless_error (by decide) _

theorem colonless_token (first : Char) (cursor : Cursor) : Colonless (token first cursor) := by
  unfold token
  -- One branch for each kind of token. Strings, quoted words, comments and dollar strings may fail.
  refine .ite (fun _ => colonless_ok _) <| .ite (fun _ => colonless_ok _) <|
    .ite (fun _ => colonless_lettered _ _) <| .ite (fun _ => colonless_string _ _ _) <|
    .ite (fun mark => colonless_quotedWord mark _) <| .ite (fun _ => colonless_ok _) <|
    .ite (fun _ => colonless_ok _) <| .ite (fun _ => (colonless_commentFrom _ _ _ _).map _) <|
    .ite (fun _ => colonless_ok _) <| .ite (fun _ => colonless_ok _) <|
    .ite (fun _ => colonless_ok _) <| .ite (fun _ => colonless_ok _) <|
    .ite (fun _ => colonless_dollar _) ?_
  split
  · exact colonless_ok _
  · exact colonless_ok _

theorem colonless_tokensFrom (fuel : Nat) (cursor : Cursor) :
    Colonless (tokensFrom fuel cursor) := by
  induction fuel generalizing cursor with
  | zero => exact colonless_ok _
  | succ fuel inductionHypothesis =>
    rw [tokensFrom]
    split
    · exact colonless_ok _
    · rename_i first rest _
      split
      · rename_i failed
        rintro _ ⟨⟩
        exact colonless_token _ _ _ failed
      · exact (inductionHypothesis _).map _

end Lexer

/-! ### Errors in words -/

/-- What an error says without its place. -/
def ParseError.words : ParseError → String
  | .expected what none => "Expected " ++ what ++ ", found: EOF"
  | .expected what (some found) => "Expected " ++ what ++ ", found: " ++ found.token.text
  | .other text _ => text
  | .tooDeep => "recursion limit exceeded"

/-- The place that an error carries. -/
def ParseError.place : ParseError → Option Position
  | .expected _ found => found.map Located.position
  | .other _ position => position
  | .tooDeep => none

namespace TextError

/-- What an error says without its place. -/
def words : TextError → String
  | .lexical error => "sql parser error: " ++ error.cause.message
  | .grammatical error => "sql parser error: " ++ error.words

/-- The place that an error carries. -/
def place : TextError → Option Position
  | .lexical error => some error.position
  | .grammatical error => error.place

theorem message_of_place {error : TextError} {position : Position}
    (carried : error.place = some position) :
    error.message = error.words ++ positionText position := by
  cases error with
  | lexical error =>
    cases carried
    exact (String.append_assoc ..).symm
  | grammatical error =>
    rcases error with ⟨what, _ | found⟩ | ⟨text, own⟩ | _
    · cases carried
    · cases carried
      exact (String.append_assoc ..).symm
    · cases carried
      exact (String.append_assoc ..).symm
    · cases carried

theorem message_of_none {error : TextError} (carried : error.place = none) :
    error.message = error.words := by
  cases error with
  | lexical error => cases carried
  | grammatical error =>
    rcases error with ⟨what, _ | found⟩ | ⟨text, own⟩ | _
    · rfl
    · cases carried
    · cases carried
      rfl
    · rfl

/-- The words of the lexer name no place. -/
theorem not_namesPlace_of_tokenize {text : List Char} {error : LexError}
    (failed : tokenize text = .error error) :
    ¬ NamesPlace (words (.lexical error)).toList := by
  have noLetter : 'L' ∉ "sql parser error: ".toList := by decide
  have noColon := Lexer.colonless_tokensFrom _ _ error failed
  rw [show words (.lexical error) = "sql parser error: " ++ error.cause.message from rfl,
    String.toList_append]
  exact not_namesPlace_append noLetter (not_namesPlace_of_not_mem noColon)

end TextError

theorem toList_positionText (position : Position) :
    (positionText position).toList = atText false position := by
  have front : " at Line: ".toList = [' ', 'a', 't', ' '] ++ lineWord := by decide
  have between : ", Column ".toList = columnWord ++ [' '] := by decide
  rw [positionText, String.toList_append, String.toList_append, String.toList_append, front,
    between, Nat.toString_eq_repr, Nat.toString_eq_repr, Nat.toList_repr, Nat.toList_repr, atText,
    written, placeText]
  simp only [Bool.false_eq_true, if_false, List.append_assoc, List.nil_append]

end Sql

/-! ### The place of a rejected text -/

/-- An error has the line and the column of a place, as far as these are wide enough. -/
structure Tree.SyntaxError.IsAt (error : Tree.SyntaxError) (position : Position) : Prop where
  line : error.line = Int32.ofNat position.line
  column : error.column = Int32.ofNat position.column

theorem Tree.SyntaxError.IsAt.toInt_eq {error : Tree.SyntaxError} {position : Position}
    (isAt : error.IsAt position) (lineFits : position.line < 2 ^ 31)
    (columnFits : position.column < 2 ^ 31) :
    error.line.toInt = position.line ∧ error.column.toInt = position.column := by
  rw [isAt.line, isAt.column]
  exact ⟨Int32.toInt_ofNat_of_lt lineFits, Int32.toInt_ofNat_of_lt columnFits⟩

/-- The result for a rejected text. -/
structure Pinpoints (text : List Char) (error : Sql.TextError) (found : Tree.SyntaxError) :
    Prop where
  /-- The message is that of the error. -/
  message : found.message = error.message
  /-- A message is made of words and of the place that the error carries. -/
  ending : error.message.toList = error.words.toList ++ error.place.elim [] (atText false)
  /-- The words of the lexer name no place, whatever the text is. -/
  lexical : ∀ cause, error = .lexical cause → ¬ NamesPlace error.words.toList
  /-- A place that the error carries is told, if its words name none. -/
  own : ¬ NamesPlace error.words.toList → ∀ position, error.place = some position →
    position.line < 2 ^ 31 → position.column < 2 ^ 31 →
    found.line.toInt = position.line ∧ found.column.toInt = position.column
  /-- An error without any place is just past the end of the text. -/
  atEnd : ¬ NamesPlace error.words.toList → error.place = none →
    found.IsAt (.after text) ∧ (text.length + 1 < 2 ^ 31 →
      found.line.toInt = (Position.after text).line ∧
      found.column.toInt = (Position.after text).column)
  /-- Otherwise the first place in the words is all that counts. If its numbers are of no use, the
  error is just past the end of the text. -/
  named : NamesPlace error.words.toList →
    found.IsAt ((position? error.words.toList).getD (.after text))

namespace Sql.TextError

variable {error : TextError} {position : Position}

/-- A message is its words, with the place behind them if there is one. -/
theorem toList_message (error : TextError) :
    error.message.toList = error.words.toList ++ error.place.elim [] (atText false) := by
  cases carried : error.place with
  | none => rw [message_of_none carried, Option.elim_none, List.append_nil]
  | some position =>
    rw [message_of_place carried, String.toList_append, toList_positionText, Option.elim_some]

theorem position?_message_of_not (unnamed : ¬ NamesPlace error.words.toList)
    (carried : error.place = some position) (lineFits : position.line < 2 ^ 31)
    (columnFits : position.column < 2 ^ 31) :
    position? error.message.toList = some position := by
  rw [toList_message, carried]
  exact position?_append_of_not false unnamed lineFits columnFits

theorem position?_message_of_namesPlace (named : NamesPlace error.words.toList) :
    position? error.message.toList = position? error.words.toList := by
  rw [toList_message]
  cases error.place with
  | none => rw [Option.elim_none, List.append_nil]
  | some position => exact position?_append_of_namesPlace false position named

theorem position?_message_of_none (unnamed : ¬ NamesPlace error.words.toList)
    (carried : error.place = none) : position? error.message.toList = none := by
  rw [toList_message, carried, Option.elim_none, List.append_nil]
  exact position?_eq_none unnamed

end Sql.TextError

/-- The result for a rejected text is that for its message. -/
theorem parse_of_error {options : Options} {text : List Char} {error : Sql.TextError}
    (rejected : Sql.parseText options.recursionLimit.toNat text = .error error) :
    ∃ found, parse options text = .invalid found ∧ found.message = error.message ∧
      found.IsAt ((position? error.message.toList).getD (.after text)) := by
  refine ⟨⟨error.message, _, _⟩, ?_, rfl, rfl, rfl⟩
  rw [parse, rejected, ← Position.endOf_eq_after]
  rfl

/-- The lexer is where lexical errors come from. -/
theorem Sql.tokenize_of_lexical {room : Nat} {text : List Char} {cause : LexError}
    (rejected : parseText room text = .error (.lexical cause)) :
    tokenize text = .error cause := by
  rw [parseText] at rejected
  cases read : tokenize text with
  | error other =>
    rw [read] at rejected
    cases rejected
    rfl
  | ok tokens =>
    rw [read] at rejected
    dsimp only [Except.mapError, bind, Except.bind] at rejected
    split at rejected
    · cases rejected
    · cases rejected

/-- Where the error of a rejected text is, is told by its words and by the place that it carries. -/
theorem pinpoints_of_error {options : Options} {text : List Char} {error : Sql.TextError}
    (rejected : Sql.parseText options.recursionLimit.toNat text = .error error) :
    ∃ found, parse options text = .invalid found ∧ Pinpoints text error found := by
  obtain ⟨found, parsed, message, isAt⟩ := parse_of_error rejected
  refine ⟨found, parsed, message, error.toList_message, ?_, ?_, ?_, ?_⟩
  · rintro cause rfl
    exact Sql.TextError.not_namesPlace_of_tokenize (Sql.tokenize_of_lexical rejected)
  · intro unnamed position carried lineFits columnFits
    rw [Sql.TextError.position?_message_of_not unnamed carried lineFits columnFits] at isAt
    exact isAt.toInt_eq lineFits columnFits
  · intro unnamed carried
    rw [Sql.TextError.position?_message_of_none unnamed carried] at isAt
    refine ⟨isAt, fun short => isAt.toInt_eq ?_ ?_⟩
    · exact Nat.lt_of_le_of_lt (Position.endOf_eq_after text ▸ Position.line_endOf_le text) short
    · exact Nat.lt_of_le_of_lt (Position.endOf_eq_after text ▸ Position.column_endOf_le text) short
  · intro named
    rwa [Sql.TextError.position?_message_of_namesPlace named] at isAt

/-- Every text that is rejected gives an error, and its place is the one that the error carries,
or just past the end of the text, unless the words of the error name a place themselves. More
generally a place is found behind all words that name none. -/
theorem parse_pinpoints (options : Options) :
    (∀ text error, Sql.parseText options.recursionLimit.toNat text = .error error →
      ∃ found, parse options text = .invalid found ∧ Pinpoints text error found) ∧
    ∀ words colon position, position.line < 2 ^ 31 → position.column < 2 ^ 31 →
      (¬ NamesPlace words → position? (words ++ atText colon position) = some position) ∧
      (NamesPlace words → position? (words ++ atText colon position) = position? words) :=
  ⟨fun _ _ => pinpoints_of_error, fun _ colon position lineFits columnFits =>
    ⟨fun unnamed => position?_append_of_not colon unnamed lineFits columnFits,
      position?_append_of_namesPlace colon position⟩⟩

/-- A text that is rejected for its second line, with a place in a string that the error does not
quote. -/
def placeElsewhere : List Char := "SELECT 'Line: 7, Column 9'\nFROM 1".toList

theorem parse_pinpoints_placeElsewhere :
    (∃ found, parse .default placeElsewhere = .invalid found ∧ found.line.toInt = 2 ∧
      found.column.toInt = 6) ∧
    position? ("Line: 7, Column x".toList ++ atText true ⟨2, 14⟩) = some ⟨2, 14⟩ := by
  refine ⟨?_, ((parse_pinpoints .default).2 _ true ⟨2, 14⟩ (by decide) (by decide)).1
    (by decide +kernel)⟩
  have failed : ((Sql.parseText Options.default.recursionLimit.toNat placeElsewhere).mapError
      fun error => (error.words, error.place)).map (fun _ => ()) =
        .error ("sql parser error: Expected identifier, found: 1", some ⟨2, 6⟩) := by
    decide +kernel
  have unnamed : ¬ NamesPlace "sql parser error: Expected identifier, found: 1".toList := by
    decide +kernel
  cases rejected : Sql.parseText Options.default.recursionLimit.toNat placeElsewhere with
  | ok statements =>
    rw [rejected] at failed
    cases failed
  | error error =>
    rw [rejected] at failed
    obtain ⟨words, carried⟩ := Prod.mk.inj (Except.error.inj failed)
    obtain ⟨found, parsed, pinpoints⟩ := (parse_pinpoints .default).1 _ _ rejected
    exact ⟨found, parsed, pinpoints.own (words ▸ unnamed) _ carried (by decide) (by decide)⟩

/-! ### A place that is made up -/

namespace Sql

/-- A quoted content without quotes is read up to its closing quote. -/
theorem Lexer.quotedFrom_append {quote : Char} {content : List Char} (inside : quote ∉ content)
    (position : Position) : ∃ behind,
      quotedFrom quote (content ++ [quote]) position = some (content, ⟨[], behind⟩) := by
  induction content generalizing position with
  | nil => exact ⟨_, if_pos rfl⟩
  | cons character content inductionHypothesis =>
    obtain ⟨other, others⟩ := List.ne_and_not_mem_of_not_mem_cons inside
    obtain ⟨behind, read⟩ := inductionHypothesis others (position.advance character)
    obtain ⟨second, rest, same⟩ := List.exists_cons_of_ne_nil
      (List.append_ne_nil_of_right_ne_nil content (List.cons_ne_nil quote []))
    refine ⟨behind, ?_⟩
    rw [same] at read
    rw [List.cons_append, same, quotedFrom, if_neg other.symm, read]
    rfl

/-- A quoted text is one token. -/
theorem tokenize_quoted {content : List Char} (inside : '\'' ∉ content) :
    tokenize ('\'' :: (content ++ ['\''])) =
      .ok [⟨.string .plain (String.ofList content), .start⟩] := by
  obtain ⟨behind, read⟩ := Lexer.quotedFrom_append inside (Position.start.advance '\'')
  have first : Lexer.token '\'' (.start ('\'' :: (content ++ ['\'']))) =
      .ok (.string .plain (String.ofList content), ⟨[], behind⟩) := by
    rw [show Lexer.token '\'' (.start ('\'' :: (content ++ ['\'']))) =
      Lexer.string .plain '\'' (.start ('\'' :: (content ++ ['\'']))) from rfl, Lexer.string,
      show Lexer.quoted '\'' (.start ('\'' :: (content ++ ['\'']))) = some (content, ⟨[], behind⟩)
        from read]
  have length : ('\'' :: (content ++ ['\''])).length = content.length + 1 + 1 := by
    rw [List.length_cons, List.length_append, List.length_singleton]
  rw [tokenize, length, Lexer.tokensFrom]
  simp only [Cursor.start] at first ⊢
  rw [first]
  rfl

/-- The error for a text that is nothing but a string. -/
def quotedError (content : List Char) : TextError :=
  .grammatical (.expected "an SQL statement"
    (some ⟨.string .plain (String.ofList content), .start⟩))

/-- A string is no statement. -/
theorem parseText_quoted {content : List Char} (inside : '\'' ∉ content) {room : Nat}
    (enough : 0 < room) :
    parseText room ('\'' :: (content ++ ['\''])) = .error (quotedError content) := by
  obtain ⟨level, rfl⟩ := Nat.exists_eq_succ_of_ne_zero enough.ne'
  rw [parseText, tokenize_quoted inside]
  rfl

/-- The words for a string hold all of it. -/
theorem toList_words_quotedError (content : List Char) :
    (quotedError content).words.toList = "sql parser error: Expected an SQ".toList ++
      'L' :: ' ' :: ("statement, found: '".toList ++ (content ++ ['\''])) := by
  have front : "sql parser error: ".toList ++ ("Expected ".toList ++ ("an SQL statement".toList ++
      (", found: ".toList ++ "'".toList))) = "sql parser error: Expected an SQ".toList ++
        'L' :: ' ' :: "statement, found: '".toList := by decide +kernel
  have quote : "'".toList = ['\''] := by decide
  have words : (quotedError content).words = "sql parser error: " ++
      ("Expected " ++ "an SQL statement" ++ ", found: " ++
        ("'" ++ String.ofList content ++ "'")) := rfl
  rw [← List.cons_append, ← List.cons_append, ← List.append_assoc, ← front, words]
  simp only [String.toList_append, String.toList_ofList, List.append_assoc, quote]

/-- The first place in the words for a string that holds a place is that one. -/
theorem position?_words_quotedError {position : Position} (lineFits : position.line < 2 ^ 31)
    (columnFits : position.column < 2 ^ 31) :
    position? (quotedError (written false position)).words.toList = some position := by
  have noLetter : 'L' ∉ "sql parser error: Expected an SQ".toList := by decide
  have noneBehind : 'L' ∉ "statement, found: '".toList := by decide
  refine position?_eq_some ?_ lineFits columnFits
  -- The letter in `SQL` is none that a place begins with, since a space follows.
  rw [toList_words_quotedError, firstDigits_append_of_not_mem noLetter,
    firstDigits_cons_of_ne (fun _ same => by cases same),
    firstDigits_cons_of_ne (fun _ same => by cases same),
    firstDigits_append_of_not_mem noneBehind]
  refine firstDigits_written_append false position ?_
  rintro _ ⟨⟩
  decide

end Sql

/-- A string that holds a place. -/
def quotedPlace (position : Position) : List Char :=
  '\'' :: (written false position ++ ['\''])

theorem quote_not_mem_written (colon : Bool) (position : Position) :
    '\'' ∉ written colon position := by
  have noDigit (number : Nat) : '\'' ∉ Nat.toDigits 10 number := fun member =>
    absurd (isDigit_of_mem_toDigits member) (by decide)
  cases colon <;> simp [written, placeText, lineWord, columnWord, noDigit]

/-- Any place that fits can be made up: a text that quotes it is rejected at its start, and the
quoted place is blamed. -/
theorem parse_quotedPlace {options : Options} (room : 0 < options.recursionLimit.toNat)
    {position : Position} (lineFits : position.line < 2 ^ 31)
    (columnFits : position.column < 2 ^ 31) :
    ∃ error found,
      Sql.parseText options.recursionLimit.toNat (quotedPlace position) = .error error ∧
      error.place = some .start ∧ parse options (quotedPlace position) = .invalid found ∧
      found.line.toInt = position.line ∧ found.column.toInt = position.column := by
  have named := Sql.position?_words_quotedError lineFits columnFits
  have rejected := Sql.parseText_quoted (quote_not_mem_written false position) room
  obtain ⟨found, parsed, -, isAt⟩ := parse_of_error rejected
  have unlike : NamesPlace (Sql.quotedError (written false position)).words.toList := by
    by_contra unnamed
    rw [position?_eq_none unnamed] at named
    cases named
  rw [Sql.TextError.position?_message_of_namesPlace unlike, named] at isAt
  exact ⟨_, found, rejected, rfl, parsed, isAt.toInt_eq lineFits columnFits⟩

/-- The error of this text is at its first character, but the result blames another place. -/
theorem parse_quotedPlace_seventhLine :
    ∃ error found,
      Sql.parseText Options.default.recursionLimit.toNat "'Line: 7, Column 9'".toList =
        .error error ∧
      error.place = some ⟨1, 1⟩ ∧ parse .default "'Line: 7, Column 9'".toList = .invalid found ∧
      found.line.toInt = 7 ∧ found.column.toInt = 9 := by
  have text : "'Line: 7, Column 9'".toList = quotedPlace ⟨7, 9⟩ := by decide
  rw [text]
  exact parse_quotedPlace (by decide) (by decide) (by decide)

end SqlImage
