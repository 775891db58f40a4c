/-
This file proves that the tokens of a text make it up. A reader of tokens moves a
cursor over the text, and a cursor can only move on by reading characters, so what
lies between two places of it are the characters read, and its position is counted
from them. Every token takes a character at least. The tokens therefore stand side
by side: each begins where the one before it ends, its position is that of its
first character, and no character of the text is left out.
-/

import SqlImage.Proofs.Offset
import SqlImage.Sql.Lexer

namespace SqlImage.Sql

/-! ### Cursors -/

namespace Cursor

/-- The cursor gets to a later place by reading characters. -/
def Reaches (cursor later : Cursor) : Prop :=
  ∃ taken, cursor.rest = taken ++ later.rest ∧
    later.position = taken.foldl Position.advance cursor.position

variable {cursor middle later : Cursor}

theorem reaches_refl (cursor : Cursor) : cursor.Reaches cursor := ⟨[], rfl, rfl⟩

theorem Reaches.trans (first : cursor.Reaches middle) (second : middle.Reaches later) :
    cursor.Reaches later := by
  obtain ⟨taken, restEq, positionEq⟩ := first
  obtain ⟨more, moreRest, morePosition⟩ := second
  refine ⟨taken ++ more, ?_, ?_⟩
  · rw [restEq, moreRest, List.append_assoc]
  · rw [morePosition, positionEq, List.foldl_append]

theorem reaches_of_cons (character : Char) (rest : List Char) (position : Position)
    (reaches : (⟨rest, position.advance character⟩ : Cursor).Reaches later) :
    (⟨character :: rest, position⟩ : Cursor).Reaches later := by
  obtain ⟨taken, restEq, positionEq⟩ := reaches
  refine ⟨character :: taken, ?_, positionEq⟩
  rw [List.cons_append, ← restEq]

theorem reaches_skip (cursor : Cursor) : cursor.Reaches cursor.skip := by
  rcases cursor with ⟨rest, position⟩
  cases rest with
  | nil => exact reaches_refl _
  | cons character rest => exact reaches_of_cons _ _ _ (reaches_refl _)

theorem Reaches.skip (reaches : cursor.Reaches later) : cursor.Reaches later.skip :=
  reaches.trans (reaches_skip later)

theorem reaches_skipMany (count : Nat) (cursor : Cursor) :
    cursor.Reaches (skipMany count cursor) := by
  induction count generalizing cursor with
  | zero => exact reaches_refl cursor
  | succ count inductionHypothesis => exact (reaches_skip cursor).trans (inductionHypothesis _)

theorem reaches_spanFrom (test : Char → Bool) (rest : List Char) (position : Position) :
    (⟨rest, position⟩ : Cursor).Reaches (spanFrom test rest position).2 := by
  induction rest generalizing position with
  | nil => exact reaches_refl _
  | cons character rest inductionHypothesis =>
    rw [spanFrom]
    split
    · exact reaches_of_cons _ _ _ (inductionHypothesis _)
    · exact reaches_refl _

theorem reaches_span (test : Char → Bool) (cursor : Cursor) :
    cursor.Reaches (cursor.span test).2 := reaches_spanFrom test cursor.rest cursor.position

theorem Reaches.span (reaches : cursor.Reaches later) (test : Char → Bool) :
    cursor.Reaches (later.span test).2 := reaches.trans (reaches_span test later)

theorem Reaches.of_span {test : Char → Bool} {taken : List Char} (reaches : cursor.Reaches middle)
    (found : middle.span test = (taken, later)) : cursor.Reaches later := by
  have reached := reaches.span test
  rwa [found] at reached

/-- A stretch that holds the next character goes past it. -/
theorem skip_reaches_span {test : Char → Bool} {character : Char} {rest : List Char}
    (next : cursor.rest = character :: rest) (passes : test character = true) :
    cursor.skip.Reaches (cursor.span test).2 := by
  rcases cursor with ⟨_, position⟩
  cases next
  rw [Cursor.span, spanFrom, if_pos passes]
  exact reaches_spanFrom test rest _

/-- A stretch that does not hold the next character is empty. -/
theorem span_of_fails {test : Char → Bool} {character : Char} {rest : List Char}
    (next : cursor.rest = character :: rest) (fails : ¬ test character = true) :
    cursor.span test = ([], cursor) := by
  rcases cursor with ⟨_, position⟩
  cases next
  rw [Cursor.span, spanFrom, if_neg fails]

theorem Reaches.ite {later other : Cursor} {condition : Prop} [Decidable condition]
    (first : cursor.Reaches later) (second : cursor.Reaches other) :
    cursor.Reaches (if condition then later else other) := by
  split
  · exact first
  · exact second

end Cursor

/-! ### Parts of tokens -/

namespace Lexer

open Cursor

variable {cursor later start : Cursor}

theorem reaches_word (first : List Char) (reaches : start.Reaches cursor) :
    start.Reaches (word first cursor).2 := reaches.span goesOnInWord

/-- What is put before a content that was read does not move the place behind it. -/
theorem cursor_of_map {found : Option (List Char × Cursor)} {change : List Char → List Char}
    {content : List Char}
    (read : (found.map fun (inner, after) => (change inner, after)) = some (content, later)) :
    ∃ inner, found = some (inner, later) := by
  obtain ⟨⟨inner, after⟩, innerRead, same⟩ := Option.map_eq_some_iff.mp read
  cases same
  exact ⟨inner, innerRead⟩

theorem reaches_quotedFrom {quote : Char} {rest content : List Char} {position : Position}
    (read : quotedFrom quote rest position = some (content, later)) :
    (⟨rest, position⟩ : Cursor).Reaches later := by
  fun_induction quotedFrom quote rest position generalizing content with
  | case1 => cases read
  | case2 position =>
    cases read
    exact reaches_skip _
  | case3 => cases read
  | case4 rest position inductionHypothesis =>
    obtain ⟨inner, innerRead⟩ := cursor_of_map read
    exact reaches_of_cons _ _ _ (reaches_of_cons _ _ _ (inductionHypothesis innerRead))
  | case5 =>
    cases read
    exact reaches_skip _
  | case6 character second rest position _ inductionHypothesis =>
    obtain ⟨inner, innerRead⟩ := cursor_of_map read
    exact reaches_of_cons _ _ _ (inductionHypothesis innerRead)

theorem reaches_quoted {quote : Char} {content : List Char}
    (read : quoted quote cursor = some (content, later)) : cursor.skip.Reaches later :=
  reaches_quotedFrom read

theorem reaches_escapedFrom {escaped : Bool} {rest content : List Char} {position : Position}
    (read : escapedFrom escaped rest position = some (content, later)) :
    (⟨rest, position⟩ : Cursor).Reaches later := by
  fun_induction escapedFrom escaped rest position generalizing content with
  | case1 => cases read
  | case2 =>
    cases read
    exact reaches_skip _
  | case3 => cases read
  | case4 character second rest position onward =>
    rename_i inductionHypothesis
    obtain ⟨inner, innerRead⟩ := cursor_of_map read
    exact reaches_of_cons _ _ _ (inductionHypothesis innerRead)
  | case5 escaped rest position _ onward =>
    rename_i inductionHypothesis
    obtain ⟨inner, innerRead⟩ := cursor_of_map read
    exact reaches_of_cons _ _ _ (reaches_of_cons _ _ _ (inductionHypothesis innerRead))
  | case6 =>
    cases read
    exact reaches_skip _
  | case7 escaped second rest position _ onward _ =>
    rename_i inductionHypothesis
    exact reaches_of_cons _ _ _ (inductionHypothesis read)
  | case8 escaped character second rest position onward _ _ _ =>
    rename_i inductionHypothesis
    obtain ⟨inner, innerRead⟩ := cursor_of_map read
    exact reaches_of_cons _ _ _ (inductionHypothesis innerRead)

theorem reaches_dollarsFrom {dollar : Bool} {rest content : List Char} {position : Position}
    (read : dollarsFrom dollar rest position = .ok (content, later)) :
    (⟨rest, position⟩ : Cursor).Reaches later := by
  fun_induction dollarsFrom dollar rest position generalizing content with
  | case1 => cases read
  | case2 =>
    cases read
    exact reaches_skip _
  | case3 dollar rest position _ onward =>
    rename_i inductionHypothesis
    exact reaches_of_cons _ _ _ (inductionHypothesis read)
  | case4 dollar character rest position onward _ =>
    rename_i inductionHypothesis
    cases found : dollarsFrom false rest (position.advance character) with
    | error place =>
      rw [found] at read
      cases read
    | ok inner =>
      rw [found] at read
      cases read
      exact reaches_of_cons _ _ _ (inductionHypothesis found)

theorem reaches_closingTag {tag : String} {expected : List Char}
    (read : closingTag tag expected cursor = .ok later) : cursor.Reaches later := by
  fun_induction closingTag tag expected cursor with
  | case1 cursor =>
    cases read
    exact reaches_refl _
  | case2 character more cursor _ inductionHypothesis =>
    exact (reaches_skip cursor).trans (inductionHypothesis read)
  | case3 => cases read

theorem reaches_commentFrom {depth : Nat} {last : Char} {rest : List Char} {position : Position}
    (read : commentFrom depth last rest position = .ok later) :
    (⟨rest, position⟩ : Cursor).Reaches later := by
  fun_induction commentFrom depth last rest position with
  | case1 => cases read
  | case2 depth last character rest position onward _ =>
    rename_i inductionHypothesis
    exact reaches_of_cons _ _ _ (inductionHypothesis read)
  | case3 =>
    cases read
    exact reaches_skip _
  | case4 last character rest position onward _ _ depth =>
    rename_i inductionHypothesis
    exact reaches_of_cons _ _ _ (inductionHypothesis read)
  | case5 depth last character rest position onward _ _ =>
    rename_i inductionHypothesis
    exact reaches_of_cons _ _ _ (inductionHypothesis read)

theorem reaches_exponent (reaches : start.Reaches cursor) :
    start.Reaches (exponent cursor).2 := by
  unfold exponent
  dsimp only
  split
  · split
    · split
      · split
        · exact reaches
        · exact reaches.skip.skip.of_span ‹_›
      · split
        · exact reaches
        · exact reaches.skip.of_span ‹_›
    · exact reaches
  · exact reaches

/-- The first digit or the point takes a number past its first character. -/
theorem reaches_point {first : Char} {rest whole : List Char} {behindWhole : Cursor}
    (next : cursor.rest = first :: rest) (starts : first.isDigit = true ∨ first = '.')
    (found : cursor.span Char.isDigit = (whole, behindWhole)) :
    cursor.skip.Reaches
      (if behindWhole.at? '.' then (['.'], behindWhole.skip) else ([], behindWhole)).2 := by
  by_cases digit : first.isDigit = true
  · have behind : cursor.skip.Reaches behindWhole := by
      have passed := skip_reaches_span next digit
      rwa [found] at passed
    split
    · exact behind.skip
    · exact behind
  · have point : first = '.' := starts.resolve_left digit
    rw [span_of_fails next digit] at found
    cases found
    have atPoint : cursor.at? '.' = true := by
      rw [Cursor.at?, next, point]
      rfl
    rw [if_pos atPoint]
    exact reaches_refl _

theorem reaches_number {first : Char} {rest : List Char} (next : cursor.rest = first :: rest)
    (starts : first.isDigit = true ∨ first = '.') :
    cursor.skip.Reaches (number cursor).2 := by
  rcases wholeFound : cursor.span Char.isDigit with ⟨whole, behindWhole⟩
  have pointed := reaches_point next starts wholeFound
  rcases pointFound :
    (if behindWhole.at? '.' then (['.'], behindWhole.skip) else ([], behindWhole) :
      List Char × Cursor) with ⟨point, behindPoint⟩
  rw [pointFound] at pointed
  unfold number
  rw [wholeFound]
  dsimp only
  by_cases hexadecimal : whole = ['0'] ∧ behindWhole.at? 'x' = true
  · have digit : first.isDigit = true := by
      by_contra fails
      rw [span_of_fails next fails] at wholeFound
      cases wholeFound
      exact absurd hexadecimal.1 (List.cons_ne_nil _ _).symm
    have passed := skip_reaches_span next digit
    rw [wholeFound] at passed
    rw [if_pos hexadecimal]
    exact passed.skip.span isHexDigit
  · have fractional := pointed.span Char.isDigit
    rw [if_neg hexadecimal, pointFound]
    dsimp only
    split
    · exact fractional
    · exact (reaches_exponent fractional).skip.ite (reaches_exponent fractional)

/-! ### Symbols -/

theorem spelling_pos : ∀ entry ∈ Symbol.table, 0 < entry.1.length := by decide

theorem reaches_symbol? {read : Token} (found : symbol? cursor = some (read, later)) :
    cursor.skip.Reaches later := by
  obtain ⟨⟨spelling, sign⟩, listed, same⟩ := Option.map_eq_some_iff.mp found
  cases same
  have spelled := spelling_pos _ (List.mem_of_find?_eq_some listed)
  obtain ⟨count, counted⟩ := Nat.exists_eq_succ_of_ne_zero (Nat.ne_of_gt spelled)
  rw [counted]
  exact reaches_skipMany count _

/-- A symbol or something else that goes past the next character. -/
theorem reaches_symbol?_getD {other : Token × Cursor} (onward : cursor.skip.Reaches other.2) :
    cursor.skip.Reaches ((symbol? cursor).getD other).2 := by
  cases found : symbol? cursor with
  | none => exact onward
  | some read => exact reaches_symbol? found

theorem reaches_hash : cursor.skip.Reaches (hash cursor).2 := by
  unfold hash
  dsimp only
  split
  · exact reaches_refl _
  · split
    · exact reaches_symbol?_getD (reaches_refl _)
    · split
      · exact reaches_refl _
      · exact reaches_word _ (reaches_skip _)

theorem reaches_atSign : cursor.skip.Reaches (atSign cursor).2 := by
  unfold atSign
  dsimp only
  split
  · exact reaches_refl _
  · split
    · exact reaches_skip _
    · split
      · exact reaches_skip _
      · split
        · split
          · exact reaches_skip _
          · split
            · exact reaches_skip _
            · exact reaches_word _ (reaches_skip _).skip
        · split
          · exact reaches_refl _
          · exact reaches_word _ (reaches_skip _)

/-! ### Whole tokens -/

theorem reaches_string {style : StringStyle} {quote : Char} {read : Token}
    (found : string style quote cursor = .ok (read, later)) : cursor.skip.Reaches later := by
  unfold string at found
  split at found
  · rename_i quotedRead
    cases found
    exact reaches_quoted quotedRead
  · cases found

theorem reaches_quotedWord {quote : Char} {read : Token}
    (found : quotedWord quote cursor = .ok (read, later)) : cursor.skip.Reaches later := by
  unfold quotedWord at found
  split at found
  · rename_i quotedRead
    cases found
    exact reaches_quoted quotedRead
  · cases found

theorem reaches_escapedString {read : Token}
    (found : escapedString cursor = .ok (read, later)) : cursor.skip.Reaches later := by
  unfold escapedString at found
  dsimp only at found
  split at found
  · rename_i escapedRead
    cases found
    exact (reaches_skip _).trans (reaches_escapedFrom escapedRead)
  · cases found

theorem reaches_dollar {read : Token} (found : dollar cursor = .ok (read, later)) :
    cursor.skip.Reaches later := by
  unfold dollar at found
  dsimp only at found
  split at found
  · split at found
    · rename_i dollarsRead
      cases found
      exact (reaches_skip _).trans (reaches_dollarsFrom dollarsRead)
    · cases found
  · split at found
    · split at found
      · split at found
        · cases found
        · rename_i behindTag closed
          split at found
          · cases found
            refine ((Reaches.skip ?_).trans (reaches_closingTag closed)).skip
            exact (reaches_span _ cursor.skip).skip.span _
          · cases found
      · cases found
    · cases found
      exact reaches_span _ _

theorem reaches_lettered {letter : Char} {read : Token}
    (found : lettered letter cursor = .ok (read, later)) : cursor.skip.Reaches later := by
  unfold lettered at found
  dsimp only at found
  split at found
  · exact reaches_escapedString found
  · exact (reaches_skip _).trans (reaches_string found)
  · cases found
    exact reaches_word [letter] (reaches_refl _)

theorem reaches_of_ok {made : Token × Cursor} {read : Token} (reaches : start.Reaches made.2)
    (found : (.ok made : Lexed Token) = .ok (read, later)) : start.Reaches later := by
  rw [Except.ok.inj found] at reaches
  exact reaches

/-- A token takes its first character at least. -/
theorem reaches_token {first : Char} {rest : List Char} {read : Token}
    (next : cursor.rest = first :: rest) (found : token first cursor = .ok (read, later)) :
    cursor.skip.Reaches later := by
  unfold token at found
  rcases ite_eq_iff.mp found with ⟨-, found⟩ | ⟨-, found⟩
  · cases found
    exact (reaches_skip _).ite (reaches_refl _)
  rcases ite_eq_iff.mp found with ⟨-, found⟩ | ⟨-, found⟩
  · cases found
    exact reaches_refl _
  rcases ite_eq_iff.mp found with ⟨-, found⟩ | ⟨-, found⟩
  · exact reaches_lettered found
  rcases ite_eq_iff.mp found with ⟨-, found⟩ | ⟨-, found⟩
  · exact reaches_string found
  rcases ite_eq_iff.mp found with ⟨-, found⟩ | ⟨-, found⟩
  · exact reaches_quotedWord found
  rcases ite_eq_iff.mp found with ⟨starts, found⟩ | ⟨-, found⟩
  · exact reaches_of_ok (reaches_number next starts) found
  rcases ite_eq_iff.mp found with ⟨-, found⟩ | ⟨-, found⟩
  · cases found
    exact ((reaches_skip _).span _).skip
  rcases ite_eq_iff.mp found with ⟨-, found⟩ | ⟨-, found⟩
  · dsimp only at found
    cases commented : commentFrom 0 ' ' cursor.skip.skip.rest cursor.skip.skip.position with
    | error place =>
      rw [commented] at found
      cases found
    | ok behind =>
      rw [commented] at found
      cases found
      exact (reaches_skip _).trans (reaches_commentFrom commented)
  rcases ite_eq_iff.mp found with ⟨-, found⟩ | ⟨-, found⟩
  · exact reaches_of_ok reaches_hash found
  rcases ite_eq_iff.mp found with ⟨-, found⟩ | ⟨-, found⟩
  · exact reaches_of_ok reaches_atSign found
  rcases ite_eq_iff.mp found with ⟨-, found⟩ | ⟨-, found⟩
  · cases found
    exact reaches_span _ _
  rcases ite_eq_iff.mp found with ⟨-, found⟩ | ⟨-, found⟩
  · cases found
    exact reaches_word [first] (reaches_refl _)
  rcases ite_eq_iff.mp found with ⟨-, found⟩ | ⟨-, found⟩
  · exact reaches_dollar found
  split at found
  · rename_i symbolRead
    cases found
    exact reaches_symbol? symbolRead
  · cases found
    exact reaches_refl _

end Lexer

/-! ### The tokens of a text -/

/-- A token with the text before it and the characters that it is read from. -/
structure Placed where
  token : Token
  before : List Char
  characters : List Char

namespace Placed

/-- The number of characters before a token. -/
def start (placed : Placed) : Nat := placed.before.length

/-- The number of characters up to the end of a token. -/
def stop (placed : Placed) : Nat := placed.start + placed.characters.length

/-- A token with the position of its first character. -/
def located (placed : Placed) : Located := ⟨placed.token, .after placed.before⟩

end Placed

/-- The tokens make up the rest of a text, of which some characters come before. Each token begins
where the one before it ends and has a character at least. -/
inductive Fills : (before : List Char) → List Placed → (rest : List Char) → Prop where
  | nil (before : List Char) : Fills before [] []
  | cons {before characters rest : List Char} {others : List Placed} (token : Token)
      (taken : characters ≠ []) (further : Fills (before ++ characters) others rest) :
      Fills before (⟨token, before, characters⟩ :: others) (characters ++ rest)

theorem fills_tokensFrom {fuel : Nat} {before rest : List Char} {tokens : List Located}
    (enough : rest.length ≤ fuel)
    (read : Lexer.tokensFrom fuel ⟨rest, .after before⟩ = .ok tokens) :
    ∃ placed, Fills before placed rest ∧ placed.map Placed.located = tokens := by
  induction fuel generalizing before rest tokens with
  | zero =>
    cases read
    cases List.length_eq_zero_iff.mp (Nat.le_zero.mp enough)
    exact ⟨[], .nil before, rfl⟩
  | succ fuel inductionHypothesis =>
    cases rest with
    | nil =>
      cases read
      exact ⟨[], .nil before, rfl⟩
    | cons first rest =>
      rw [Lexer.tokensFrom] at read
      cases found : Lexer.token first ⟨first :: rest, .after before⟩ with
      | error place =>
        simp only [found] at read
        cases read
      | ok reply =>
        obtain ⟨token, later⟩ := reply
        simp only [found] at read
        obtain ⟨taken, restEq, positionEq⟩ := Lexer.reaches_token rfl found
        have laterEq : later = ⟨later.rest, .after (before ++ first :: taken)⟩ := by
          rw [Position.after_append]
          exact congrArg (Cursor.mk later.rest) positionEq
        rw [laterEq] at read
        cases furtherRead : Lexer.tokensFrom fuel
            ⟨later.rest, .after (before ++ first :: taken)⟩ with
        | error place =>
          rw [furtherRead] at read
          cases read
        | ok others =>
          rw [furtherRead] at read
          cases read
          have shorter : later.rest.length ≤ fuel := by
            have lengthEq := congrArg List.length restEq
            rw [List.length_append] at lengthEq
            rw [List.length_cons] at enough
            dsimp only [Cursor.skip] at lengthEq
            omega
          obtain ⟨placed, fills, same⟩ := inductionHypothesis shorter furtherRead
          refine ⟨⟨token, before, first :: taken⟩ :: placed, ?_, ?_⟩
          · have whole : first :: rest = (first :: taken) ++ later.rest := congrArg _ restEq
            rw [whole]
            exact .cons token (List.cons_ne_nil _ _) fills
          · rw [List.map_cons, same]
            rfl

/-- The tokens of a text make it up, and each carries the position of its first character. -/
theorem fills_tokenize {text : List Char} {tokens : List Located}
    (read : tokenize text = .ok tokens) :
    ∃ placed, Fills [] placed text ∧ placed.map Placed.located = tokens :=
  fills_tokensFrom (Nat.le_refl _) read

end SqlImage.Sql
