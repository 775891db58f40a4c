/-
This file says that any text is read as it was written between quotes, with an escape
for every character that needs one: quotes, backslashes and controls. A reader goes
forward one character at a time, and only the rest of the text and its size tell what
it does; the place counts for faults alone.
-/

import SqlImage.Json.Printer
import SqlImage.Json.Reader

namespace SqlImage.Json

namespace Cursor

variable {cursor : Cursor} {rest : List Char}

/-! ### Going forward -/

@[simp] theorem rest_past (cursor : Cursor) (character : Char) (rest : List Char) :
    (cursor.past character rest).rest = rest := by
  unfold past
  split <;> rfl

@[simp] theorem size_past (cursor : Cursor) (character : Char) (rest : List Char) :
    (cursor.past character rest).size = cursor.size := by
  unfold past
  split <;> rfl

@[simp] theorem rest_skip (cursor : Cursor) : cursor.skip.rest = cursor.rest.tail := by
  unfold skip
  split
  · rename_i none
    rw [none]
    rfl
  · rename_i some
    rw [some, rest_past]
    rfl

@[simp] theorem size_skip (cursor : Cursor) : cursor.skip.size = cursor.size := by
  unfold skip
  split
  · rfl
  · rw [size_past]

theorem skipWhile_go (test : Char → Bool) (text : List Char) (here : cursor.rest = text) :
    (skipWhile.go test text cursor).rest = text.dropWhile test ∧
      (skipWhile.go test text cursor).size = cursor.size := by
  induction text generalizing cursor with
  | nil => exact ⟨here, rfl⟩
  | cons character rest inductionHypothesis =>
    rw [skipWhile.go]
    by_cases passes : test character = true
    · obtain ⟨restSame, sizeSame⟩ := inductionHypothesis (rest_past cursor character rest)
      rw [if_pos passes, List.dropWhile_cons_of_pos passes, restSame, sizeSame, size_past]
      exact ⟨rfl, rfl⟩
    · rw [if_neg passes, List.dropWhile_cons_of_neg passes]
      exact ⟨here, rfl⟩

@[simp] theorem rest_skipWhile (test : Char → Bool) (cursor : Cursor) :
    (cursor.skipWhile test).rest = cursor.rest.dropWhile test :=
  (skipWhile_go test cursor.rest rfl).1

@[simp] theorem size_skipWhile (test : Char → Bool) (cursor : Cursor) :
    (cursor.skipWhile test).size = cursor.size :=
  (skipWhile_go test cursor.rest rfl).2

/-! ### Strings -/

/-- A character that is one hexadecimal digit and one byte. -/
def IsHex (digit : Char) (value : Nat) : Prop := hexValue digit = some value ∧ digit.utf8Size = 1

theorem isHex_digitChar {value : Nat} (small : value < 16) : IsHex value.digitChar value := by
  have all : ∀ value < 16,
      hexValue value.digitChar = some value ∧ value.digitChar.utf8Size = 1 := by decide
  exact all value small

theorem skipBytes_zero (text : List Char) (cursor : Cursor) : skipBytes 0 text cursor = cursor := by
  cases text <;> rfl

theorem fourDigits_eq {first second third fourth : Char} {a b c d : Nat}
    (here : cursor.rest = first :: second :: third :: fourth :: rest) (firstHex : IsHex first a)
    (secondHex : IsHex second b) (thirdHex : IsHex third c) (fourthHex : IsHex fourth d) :
    ∃ next : Cursor, next.rest = rest ∧ next.size = cursor.size ∧
      cursor.fourDigits = .ok (((a * 16 + b) * 16 + c) * 16 + d, next) := by
  obtain ⟨firstValue, firstSize⟩ := firstHex
  obtain ⟨secondValue, secondSize⟩ := secondHex
  obtain ⟨thirdValue, thirdSize⟩ := thirdHex
  obtain ⟨fourthValue, fourthSize⟩ := fourthHex
  refine ⟨skipBytes 4 cursor.rest cursor, ?_, ?_, ?_⟩
  · simp [here, skipBytes, skipBytes_zero, firstSize, secondSize, thirdSize, fourthSize]
  · simp [here, skipBytes, skipBytes_zero, firstSize, secondSize, thirdSize, fourthSize]
  · simp [fourDigits, here, hasBytes, firstSize, secondSize, thirdSize, fourthSize, firstValue,
      secondValue, thirdValue, fourthValue]

/-- An escape by a letter. -/
theorem stringFrom_letter (fuel : Nat) (decoded : List Char) {letter character : Char}
    (here : cursor.rest = '\\' :: letter :: rest) (named : letterEscape letter = some character) :
    stringFrom true (fuel + 1) decoded cursor =
      stringFrom true fuel (character :: decoded) cursor.skip.skip := by
  -- An escape by a number begins with a letter as well, which stands for no character alone.
  have unnumbered : letter ≠ 'u' := by
    rintro rfl
    cases named
  simp [stringFrom, here, named]

/-- An escape by a number below 256. -/
theorem stringFrom_numbered (fuel : Nat) (decoded : List Char) {number : Nat}
    (small : number < 256)
    (here : cursor.rest = '\\' :: 'u' :: '0' :: '0' ::
      (number / 16).digitChar :: (number % 16).digitChar :: rest) :
    ∃ next : Cursor, next.rest = rest ∧ next.size = cursor.size ∧
      stringFrom true (fuel + 1) decoded cursor =
        stringFrom true fuel (Char.ofNat number :: decoded) next := by
  have zero : IsHex '0' 0 := ⟨rfl, rfl⟩
  have digits : cursor.skip.skip.rest =
      '0' :: '0' :: (number / 16).digitChar :: (number % 16).digitChar :: rest := by
    rw [rest_skip, rest_skip, here]
    rfl
  obtain ⟨next, nextRest, nextSize, read⟩ := fourDigits_eq digits zero zero
    (isHex_digitChar (Nat.div_lt_of_lt_mul small)) (isHex_digitChar (Nat.mod_lt number (by decide)))
  have value : ((0 * 16 + 0) * 16 + number / 16) * 16 + number % 16 = number := by omega
  have low : number < 0xD800 := by omega
  have unpaired : ¬ (0xDC00 ≤ number ∧ number ≤ 0xDFFF) := by omega
  rw [value] at read
  have found : numberedEscape cursor.skip.skip = .ok (Char.ofNat number, next) := by
    simp [numberedEscape, read, bind, Except.bind, pure, Except.pure, low, unpaired]
  refine ⟨next, nextRest, by rw [nextSize, size_skip, size_skip], ?_⟩
  simp [stringFrom, here, found]

theorem stringFrom_plain (fuel : Nat) (decoded : List Char) {character : Char}
    (here : cursor.rest = character :: rest) (unquoted : character ≠ '"')
    (unescaped : character ≠ '\\') (printable : ¬ character.toNat < 0x20) :
    stringFrom true (fuel + 1) decoded cursor =
      stringFrom true fuel (character :: decoded) (cursor.past character rest) := by
  simp [stringFrom, here, printable]

/-- A character is escaped by a letter or by its number, or it stands for itself. -/
theorem escaped_cases (character : Char) :
    (∃ letter, (escaped character).toList = ['\\', letter] ∧
      letterEscape letter = some character) ∨
    (character.toNat < 0x20 ∧ (escaped character).toList = ['\\', 'u', '0', '0',
      (character.toNat / 16).digitChar, (character.toNat % 16).digitChar]) ∨
    ((character ≠ '"' ∧ character ≠ '\\' ∧ ¬ character.toNat < 0x20) ∧
      (escaped character).toList = [character]) := by
  unfold escaped
  split
  · rename_i same
    exact .inl ⟨'"', rfl, congrArg some same.symm⟩
  split
  · rename_i same
    exact .inl ⟨'\\', rfl, congrArg some same.symm⟩
  split
  · rename_i same
    exact .inl ⟨'n', rfl, congrArg some same.symm⟩
  split
  · rename_i same
    exact .inl ⟨'r', rfl, congrArg some same.symm⟩
  split
  · rename_i same
    exact .inl ⟨'t', rfl, congrArg some same.symm⟩
  split
  · rename_i same
    exact .inl ⟨'b', rfl, congrArg some (Char.toNat_inj.mp same.symm)⟩
  split
  · rename_i same
    exact .inl ⟨'f', rfl, congrArg some (Char.toNat_inj.mp same.symm)⟩
  split
  · rename_i control
    refine .inr (.inl ⟨control, ?_⟩)
    simp only [twoHexDigits, String.toList_append, String.toList_ofList]
    rfl
  · rename_i unquoted unescaped _ _ _ _ _ printable
    exact .inr (.inr ⟨⟨unquoted, unescaped, printable⟩, String.toList_singleton character⟩)

/-- Every character is read as it was escaped. -/
theorem stringFrom_escaped (fuel : Nat) (decoded : List Char) {character : Char}
    (here : cursor.rest = (escaped character).toList ++ rest) :
    ∃ next : Cursor, next.rest = rest ∧ next.size = cursor.size ∧
      stringFrom true (fuel + 1) decoded cursor =
        stringFrom true fuel (character :: decoded) next := by
  rcases escaped_cases character with
    ⟨letter, shown, named⟩ | ⟨control, shown⟩ | ⟨⟨unquoted, unescaped, printable⟩, shown⟩
  · rw [shown] at here
    refine ⟨cursor.skip.skip, ?_, ?_, stringFrom_letter fuel decoded here named⟩
    · rw [rest_skip, rest_skip, here]
      rfl
    · rw [size_skip, size_skip]
  · rw [shown] at here
    have small : character.toNat < 256 := Nat.lt_trans control (by decide)
    obtain ⟨next, nextRest, nextSize, found⟩ := stringFrom_numbered fuel decoded small here
    rw [Char.ofNat_toNat] at found
    exact ⟨next, nextRest, nextSize, found⟩
  · rw [shown] at here
    exact ⟨_, rest_past _ _ _, size_past _ _ _,
      stringFrom_plain fuel decoded here unquoted unescaped printable⟩

/-- A text is read from its escaped characters and the quote behind them. -/
theorem stringFrom_escapes {text : List Char} {fuel : Nat} (enough : text.length < fuel)
    (decoded : List Char)
    (here : cursor.rest =
      text.flatMap (fun character => (escaped character).toList) ++ '"' :: rest) :
    ∃ next : Cursor, next.rest = rest ∧ next.size = cursor.size ∧
      stringFrom true fuel decoded cursor =
        .ok (String.ofList (decoded.reverse ++ text), next) := by
  induction text generalizing fuel decoded cursor with
  | nil =>
    obtain ⟨fuel, rfl⟩ := Nat.exists_eq_add_of_lt enough
    have quoted : cursor.rest = '"' :: rest := here
    refine ⟨cursor.skip, by rw [rest_skip, quoted]; rfl, size_skip cursor, ?_⟩
    simp [stringFrom, quoted]
  | cons character text inductionHypothesis =>
    cases fuel with
    | zero => cases enough
    | succ fuel =>
      rw [List.flatMap_cons, List.append_assoc] at here
      obtain ⟨middle, middleRest, middleSize, step⟩ := stringFrom_escaped fuel decoded here
      obtain ⟨next, nextRest, nextSize, done⟩ := inductionHypothesis
        (Nat.lt_of_succ_lt_succ enough) (character :: decoded) middleRest
      refine ⟨next, nextRest, nextSize.trans middleSize, ?_⟩
      rw [step, done, List.reverse_cons, List.append_assoc]
      rfl

theorem toList_quotedText (text : String) : (quotedText text).toList =
    '"' :: (text.toList.flatMap (fun character => (escaped character).toList) ++ ['"']) := by
  simp [quotedText, String.toList_append, String.toList_join, List.flatMap_map]

theorem length_escaped_pos (character : Char) : 0 < (escaped character).toList.length := by
  rcases escaped_cases character with ⟨letter, shown, -⟩ | ⟨-, shown⟩ | ⟨-, shown⟩
  all_goals
    rw [shown]
    exact Nat.succ_pos _

/-- Every character takes at least one place. -/
theorem length_le_flatMap_escaped (text : List Char) :
    text.length ≤ (text.flatMap fun character => (escaped character).toList).length := by
  induction text with
  | nil => exact Nat.le_refl 0
  | cons character text inductionHypothesis =>
    have first := length_escaped_pos character
    rw [List.flatMap_cons, List.length_append, List.length_cons]
    omega

/-- A text that fits is read from behind its opening quote. -/
theorem string_eq (text : String) (here : '"' :: cursor.rest = (quotedText text).toList ++ rest)
    (fits : cursor.rest.length ≤ cursor.size) :
    ∃ next : Cursor, next.rest = rest ∧ next.size = cursor.size ∧
      cursor.string = .ok (text, next) := by
  rw [toList_quotedText, List.cons_append, List.cons.injEq, List.append_assoc] at here
  have long := length_le_flatMap_escaped text.toList
  have inside := congrArg List.length here.2
  rw [List.length_append] at inside
  obtain ⟨next, nextRest, nextSize, read⟩ := stringFrom_escapes
    (by omega : text.toList.length < cursor.size + 1) [] here.2
  exact ⟨next, nextRest, nextSize, by rw [string, read]; simp⟩

end Cursor

end SqlImage.Json
