/-
This file says what the search for a position in a message finds. A place is written
with its line and its column, a search finds the first one, and it finds none exactly
where none is written. The place that a message ends in is therefore the one that is
found if the words before it name no place. If they do, the words alone count: what
stands behind them is never looked at.
-/

import Mathlib.Algebra.GroupWithZero.Nat
import Mathlib.Data.List.TakeWhile
import SqlImage.Text.Located

namespace SqlImage.Text.Located

/-! ### Places as they are written -/

/-- A number as a search takes it: digits of any script, at least one. -/
structure IsNumber (digits : List Char) : Prop where
  ne_nil : digits ≠ []
  isDigit : ∀ digit ∈ digits, isDecimalDigit digit = true

/-- The word in front of a line. -/
def lineWord : List Char := ['L', 'i', 'n', 'e', ':', ' ']

/-- The word between a line and a column. -/
def columnWord : List Char := [',', ' ', 'C', 'o', 'l', 'u', 'm', 'n']

theorem toList_lineWord : "Line: ".toList = lineWord := by decide

theorem toList_columnWord : ", Column".toList = columnWord := by decide

/-- A place as it is written in a message. The second colon may be left out. -/
def placeText (colon : Bool) (lineDigits columnDigits : List Char) : List Char :=
  lineWord ++ lineDigits ++ columnWord ++ (if colon then [':'] else []) ++ [' '] ++ columnDigits

/-- The digits of a number end here. -/
def EndsDigits (rest : List Char) : Prop :=
  ∀ character, rest.head? = some character → isDecimalDigit character = false

theorem endsDigits_dropWhile (text : List Char) : EndsDigits (text.dropWhile isDecimalDigit) := by
  intro character first
  have stops := List.head?_dropWhile_not isDecimalDigit text
  rw [first] at stops
  exact stops

/-- A place is written somewhere in a text. -/
def NamesPlace (text : List Char) : Prop :=
  ∃ before colon lineDigits columnDigits after, IsNumber lineDigits ∧ IsNumber columnDigits ∧
    text = before ++ placeText colon lineDigits columnDigits ++ after

/-- Where there is no colon, no place is written. -/
theorem not_namesPlace_of_not_mem {text : List Char} (noColon : ':' ∉ text) :
    ¬ NamesPlace text := by
  rintro ⟨before, colon, lineDigits, columnDigits, after, -, -, rfl⟩
  refine noColon (List.mem_append_left _ (List.mem_append_right _ ?_))
  simp only [placeText, List.append_assoc]
  exact List.mem_append_left _ (by decide)

/-! ### A place at the front -/

theorem dropPrefix_eq_some_iff {expected text rest : List Char} :
    dropPrefix expected text = some rest ↔ text = expected ++ rest := by
  fun_induction dropPrefix expected text with
  | case1 text => exact ⟨Option.some.inj, congrArg some⟩
  | case2 => exact ⟨nofun, nofun⟩
  | case3 more rest character =>
    rename_i inductionHypothesis
    rw [inductionHypothesis, List.cons_append, List.cons.injEq]
    exact (and_iff_right rfl).symm
  | case4 expected more character rest other =>
    refine ⟨nofun, fun same => ?_⟩
    cases same
    exact (other rfl).elim

theorem takeDigits_eq_some_iff {text digits rest : List Char} :
    takeDigits text = some (digits, rest) ↔
      IsNumber digits ∧ EndsDigits rest ∧ text = digits ++ rest := by
  constructor
  · intro found
    have parts := List.takeWhile_append_dropWhile (p := isDecimalDigit) (l := text)
    unfold takeDigits at found
    split at found
    · cases found
    · rename_i some
      cases found
      exact ⟨⟨fun none => some none, fun digit member => List.mem_takeWhile_imp member⟩,
        endsDigits_dropWhile text, parts.symm⟩
  · rintro ⟨number, ends, rfl⟩
    have all : (digits ++ rest).takeWhile isDecimalDigit =
        digits ++ rest.takeWhile isDecimalDigit := List.takeWhile_append_of_pos number.isDigit
    have none : (digits ++ rest).dropWhile isDecimalDigit = rest.dropWhile isDecimalDigit :=
      List.dropWhile_append_of_pos number.isDigit
    have stopped : rest.takeWhile isDecimalDigit = [] ∧ rest.dropWhile isDecimalDigit = rest := by
      cases rest with
      | nil => exact ⟨rfl, rfl⟩
      | cons character rest =>
        have fails := ends character rfl
        simp [fails]
    rw [takeDigits, all, none, stopped.1, stopped.2, List.append_nil]
    split
    · exact (number.ne_nil rfl).elim
    · rfl

theorem digitsAtFront_eq_some_iff {text lineDigits columnDigits : List Char} :
    digitsAtFront text = some (lineDigits, columnDigits) ↔
      IsNumber lineDigits ∧ IsNumber columnDigits ∧ ∃ colon rest, EndsDigits rest ∧
        text = placeText colon lineDigits columnDigits ++ rest := by
  constructor
  · intro found
    simp only [digitsAtFront, toList_lineWord, toList_columnWord, Option.bind_eq_bind,
      Option.bind_eq_some_iff, dropPrefix_eq_some_iff] at found
    obtain ⟨_, rfl, ⟨digits, _⟩, lineTaken, behind, rfl, afterColon, space, ⟨others, rest⟩,
      columnTaken, same⟩ := found
    cases same
    obtain ⟨line, -, rfl⟩ := takeDigits_eq_some_iff.mp lineTaken
    obtain ⟨column, ends, rfl⟩ := takeDigits_eq_some_iff.mp columnTaken
    refine ⟨line, column, ?_⟩
    cases found : dropPrefix [':'] behind with
    | none =>
      rw [found] at space
      refine ⟨false, rest, ends, ?_⟩
      rw [show behind = [' '] ++ (others ++ rest) from space]
      simp only [placeText, Bool.false_eq_true, if_false, List.nil_append, List.append_assoc]
    | some more =>
      rw [found] at space
      refine ⟨true, rest, ends, ?_⟩
      rw [dropPrefix_eq_some_iff.mp found, show more = [' '] ++ (others ++ rest) from space]
      simp only [placeText, if_true, List.append_assoc]
  · rintro ⟨line, column, colon, rest, ends, rfl⟩
    have noDigit : EndsDigits (columnWord ++ ((if colon then [':'] else []) ++
        ([' '] ++ (columnDigits ++ rest)))) := by
      rintro _ ⟨⟩
      decide
    have spaced : dropPrefix [' '] ((dropPrefix [':'] ((if colon then [':'] else []) ++
        ([' '] ++ (columnDigits ++ rest)))).getD ((if colon then [':'] else []) ++
        ([' '] ++ (columnDigits ++ rest)))) = some (columnDigits ++ rest) := by
      cases colon <;> rfl
    have lineTaken := takeDigits_eq_some_iff.mpr ⟨line, noDigit, rfl⟩
    have columnTaken := takeDigits_eq_some_iff.mpr ⟨column, ends, rfl⟩
    simp only [digitsAtFront, toList_lineWord, toList_columnWord, placeText, List.append_assoc,
      Option.bind_eq_bind,
      dropPrefix_eq_some_iff.mpr rfl, Option.bind_some, lineTaken, spaced, columnTaken]
    rfl

/-! ### The first place -/

variable {text words : List Char}

/-- A place is made of its words and digits, and a digit ends it. -/
theorem placeText_eq_append {lineDigits columnDigits before after : List Char}
    (line : IsNumber lineDigits) (column : IsNumber columnDigits) {colon : Bool}
    (parts : placeText colon lineDigits columnDigits = before ++ after) :
    'a' ∉ after ∧ after.getLast? ≠ some ' ' := by
  constructor
  · intro member
    have inside : 'a' ∈ placeText colon lineDigits columnDigits :=
      parts ▸ List.mem_append_right _ member
    have inDigits : 'a' ∈ lineDigits ∨ 'a' ∈ columnDigits := by
      cases colon <;> simpa [placeText, lineWord, columnWord] using inside
    have noDigit : isDecimalDigit 'a' = false := by decide
    obtain inLine | inColumn := inDigits
    · exact absurd (line.isDigit _ inLine) (by simp [noDigit])
    · exact absurd (column.isDigit _ inColumn) (by simp [noDigit])
  · intro last
    have ends := List.getLast?_eq_some_getLast column.ne_nil
    have whole := congrArg List.getLast? parts
    simp only [placeText, List.getLast?_append, ends, last, Option.some_or] at whole
    rw [Option.some.inj whole] at ends
    exact absurd (column.isDigit ' ' (List.mem_of_getLast? ends)) (by decide)

/-- What a place begins with. -/
theorem exists_of_digitsAtFront {digits : List Char × List Char}
    (found : digitsAtFront text = some digits) : ∃ rest, text = lineWord ++ rest := by
  obtain ⟨lineDigits, columnDigits⟩ := digits
  obtain ⟨-, -, colon, rest, -, rfl⟩ := digitsAtFront_eq_some_iff.mp found
  exact ⟨_, List.append_assoc _ _ _⟩

theorem firstDigits_of_digitsAtFront {digits : List Char × List Char}
    (found : digitsAtFront text = some digits) : firstDigits text = some digits := by
  cases text with
  | nil => cases found
  | cons character rest => rw [firstDigits, found]

/-- A place in front of ` at ` is there without that, too. -/
theorem digitsAtFront_append (text more : List Char) :
    digitsAtFront (text ++ ' ' :: 'a' :: more) = digitsAtFront text := by
  refine Option.ext fun digits => ?_
  obtain ⟨lineDigits, columnDigits⟩ := digits
  simp only [digitsAtFront_eq_some_iff]
  refine and_congr_right fun line => and_congr_right fun column => ?_
  constructor
  · rintro ⟨colon, rest, ends, same⟩
    -- A place that went on behind the text would end in the space or hold the letter.
    obtain ⟨after, placeEq, moreEq⟩ | ⟨inside, rfl, restEq⟩ := List.append_eq_append_iff.mp same
    · obtain ⟨noLetter, noSpace⟩ := placeText_eq_append line column placeEq
      rcases after with _ | ⟨first, _ | ⟨second, after⟩⟩
      · exact ⟨colon, [], nofun, by rw [placeEq, List.append_nil, List.append_nil]⟩
      · cases moreEq
        exact (noSpace rfl).elim
      · cases moreEq
        exact (noLetter (List.mem_cons_of_mem _ List.mem_cons_self)).elim
    · refine ⟨colon, inside, fun character first => ends character ?_, rfl⟩
      rw [restEq, List.head?_append, first]
      rfl
  · rintro ⟨colon, rest, ends, rfl⟩
    refine ⟨colon, rest ++ ' ' :: 'a' :: more, ?_, List.append_assoc _ _ _⟩
    intro character first
    cases rest with
    | nil =>
      cases first
      decide
    | cons head rest => exact ends character first

/-- A search goes on behind a character where no place begins. -/
theorem firstDigits_cons_of_ne {character : Char} {rest : List Char}
    (other : ∀ more, character :: rest ≠ lineWord ++ more) :
    firstDigits (character :: rest) = firstDigits rest := by
  cases found : digitsAtFront (character :: rest) with
  | none => rw [firstDigits, found]
  | some digits =>
    obtain ⟨more, same⟩ := exists_of_digitsAtFront found
    exact (other more same).elim

/-- A text is passed over up to the first letter that a place begins with. -/
theorem firstDigits_append_of_not_mem {before : List Char} (noLetter : 'L' ∉ before)
    (rest : List Char) : firstDigits (before ++ rest) = firstDigits rest := by
  induction before with
  | nil => rfl
  | cons character before inductionHypothesis =>
    obtain ⟨other, others⟩ := List.ne_and_not_mem_of_not_mem_cons noLetter
    have begins : ∀ more, character :: (before ++ rest) ≠ lineWord ++ more := by
      rintro more same
      exact other (List.cons.inj same).1.symm
    rw [List.cons_append, firstDigits_cons_of_ne begins, inductionHypothesis others]

/-- The first place in a text that ends in a place is the first one before that, if there is
one. -/
theorem firstDigits_append (words : List Char) (colon : Bool) {lineDigits columnDigits : List Char}
    (line : IsNumber lineDigits) (column : IsNumber columnDigits) :
    firstDigits (words ++ ([' ', 'a', 't', ' '] ++ placeText colon lineDigits columnDigits)) =
      (firstDigits words).or (some (lineDigits, columnDigits)) := by
  induction words with
  | nil =>
    have front : digitsAtFront (placeText colon lineDigits columnDigits) =
        some (lineDigits, columnDigits) :=
      digitsAtFront_eq_some_iff.mpr ⟨line, column, colon, [], nofun, (List.append_nil _).symm⟩
    rw [List.nil_append, firstDigits_append_of_not_mem (by decide),
      firstDigits_of_digitsAtFront front]
    rfl
  | cons character rest inductionHypothesis =>
    have front : digitsAtFront (character :: (rest ++ ([' ', 'a', 't', ' '] ++
        placeText colon lineDigits columnDigits))) = digitsAtFront (character :: rest) :=
      digitsAtFront_append (character :: rest) _
    rw [List.cons_append, firstDigits, front, inductionHypothesis, firstDigits]
    cases digitsAtFront (character :: rest) <;> rfl

/-- What a search finds stands somewhere in the text. -/
theorem exists_digitsAtFront {digits : List Char × List Char}
    (found : firstDigits text = some digits) :
    ∃ before rest, text = before ++ rest ∧ digitsAtFront rest = some digits := by
  induction text with
  | nil => cases found
  | cons character rest inductionHypothesis =>
    rw [firstDigits] at found
    split at found
    · rename_i front
      exact ⟨[], character :: rest, rfl, front.trans found⟩
    · obtain ⟨before, after, same, front⟩ := inductionHypothesis found
      exact ⟨character :: before, after, congrArg _ same, front⟩

/-- A search that comes to a place does not fail. -/
theorem firstDigits_append_ne_none (before : List Char) (front : digitsAtFront text ≠ none) :
    firstDigits (before ++ text) ≠ none := by
  induction before with
  | nil =>
    obtain ⟨digits, found⟩ := Option.ne_none_iff_exists'.mp front
    rw [List.nil_append, firstDigits_of_digitsAtFront found]
    exact nofun
  | cons character before inductionHypothesis =>
    rw [List.cons_append, firstDigits]
    split
    · exact nofun
    · exact inductionHypothesis

/-- A place at the front of a text is found there, if perhaps with more digits in its column. -/
theorem digitsAtFront_ne_none (colon : Bool) {lineDigits columnDigits : List Char}
    (line : IsNumber lineDigits) (column : IsNumber columnDigits) (after : List Char) :
    digitsAtFront (placeText colon lineDigits columnDigits ++ after) ≠ none := by
  have found : digitsAtFront (placeText colon lineDigits columnDigits ++ after) =
      some (lineDigits, columnDigits ++ after.takeWhile isDecimalDigit) := by
    refine digitsAtFront_eq_some_iff.mpr ⟨line, ⟨?_, ?_⟩, colon, after.dropWhile isDecimalDigit,
      endsDigits_dropWhile after, ?_⟩
    · exact List.append_ne_nil_of_left_ne_nil column.ne_nil _
    · intro digit member
      obtain own | more := List.mem_append.mp member
      · exact column.isDigit digit own
      · exact List.mem_takeWhile_imp more
    · simp only [placeText, List.append_assoc, List.takeWhile_append_dropWhile]
  rw [found]
  exact nofun

/-- A search finds something exactly where a place is written. -/
theorem firstDigits_ne_none_iff : firstDigits text ≠ none ↔ NamesPlace text := by
  constructor
  · intro some
    obtain ⟨⟨lineDigits, columnDigits⟩, found⟩ := Option.ne_none_iff_exists'.mp some
    obtain ⟨before, rest, same, front⟩ := exists_digitsAtFront found
    obtain ⟨line, column, colon, after, -, restEq⟩ := digitsAtFront_eq_some_iff.mp front
    refine ⟨before, colon, lineDigits, columnDigits, after, line, column, ?_⟩
    rw [same, restEq, List.append_assoc]
  · rintro ⟨before, colon, lineDigits, columnDigits, after, line, column, rfl⟩
    rw [List.append_assoc]
    exact firstDigits_append_ne_none before (digitsAtFront_ne_none colon line column after)

instance (text : List Char) : Decidable (NamesPlace text) :=
  decidable_of_iff _ firstDigits_ne_none_iff

theorem firstDigits_eq_none (unnamed : ¬ NamesPlace text) : firstDigits text = none :=
  of_not_not (mt firstDigits_ne_none_iff.mp unnamed)

/-- Words without the letter that a place begins with do not help to name one. -/
theorem not_namesPlace_append {before rest : List Char} (noLetter : 'L' ∉ before)
    (unnamed : ¬ NamesPlace rest) : ¬ NamesPlace (before ++ rest) := by
  rw [← firstDigits_ne_none_iff, firstDigits_append_of_not_mem noLetter, firstDigits_ne_none_iff]
  exact unnamed

/-! ### Numbers -/

/-- The digits of a number that is written in ASCII have its value. -/
theorem digitsValue_eq {digits : List Char} (ascii : ∀ digit ∈ digits, digit.isDigit = true) :
    digitsValue digits = some (Nat.ofDigitChars 10 digits 0) := by
  suffices general : ∀ value, digits.foldlM (fun value digit =>
      if digit.isDigit then some (value * 10 + (digit.toNat - '0'.toNat)) else none) value =
        some (Nat.ofDigitChars 10 digits value) from general 0
  induction digits with
  | nil => exact fun value => rfl
  | cons digit digits inductionHypothesis =>
    intro value
    rw [List.foldlM_cons, if_pos (ascii digit List.mem_cons_self), Nat.ofDigitChars_cons,
      Nat.mul_comm 10]
    exact inductionHypothesis (fun digit member => ascii digit (List.mem_cons_of_mem _ member)) _

/-- Every ASCII digit is a digit of some script. -/
theorem isDecimalDigit_of_isDigit {character : Char} (digit : character.isDigit = true) :
    isDecimalDigit character = true := by
  have small : character.val < 0x80 := by
    simp only [Char.isDigit, Bool.and_eq_true, decide_eq_true_eq] at digit
    exact UInt32.lt_of_le_of_lt digit.2 (by decide)
  rw [isDecimalDigit, if_pos small, digit]

theorem isDigit_of_mem_toDigits {number : Nat} {digit : Char}
    (member : digit ∈ Nat.toDigits 10 number) : digit.isDigit = true :=
  Nat.isDigit_of_mem_toDigits (by decide) (by decide) member

theorem isNumber_toDigits (number : Nat) : IsNumber (Nat.toDigits 10 number) :=
  ⟨Nat.toDigits_ne_nil, fun _ member => isDecimalDigit_of_isDigit (isDigit_of_mem_toDigits member)⟩

/-- A number that is written out is read back, if it fits. -/
theorem smallValue_toDigits {number : Nat} (fits : number < 2 ^ 31) :
    smallValue (Nat.toDigits 10 number) = some number := by
  rw [smallValue, digitsValue_eq fun _ => isDigit_of_mem_toDigits, Nat.ofDigitChars_ten_toDigits,
    Option.filter_some, if_pos]
  have largest : Int32.maxValue.toInt = 2 ^ 31 - 1 := by decide
  rw [largest, decide_eq_true_eq]
  exact Int.le_sub_one_of_lt (Int.ofNat_lt.mpr fits)

/-! ### The place of a message -/

/-- How a position is written. The second colon may be left out. -/
def written (colon : Bool) (position : Position) : List Char :=
  placeText colon (Nat.toDigits 10 position.line) (Nat.toDigits 10 position.column)

/-- What is written for a position behind a message. -/
def atText (colon : Bool) (position : Position) : List Char :=
  [' ', 'a', 't', ' '] ++ written colon position

theorem firstDigits_written_append (colon : Bool) (position : Position) {rest : List Char}
    (ends : EndsDigits rest) : firstDigits (written colon position ++ rest) =
      some (Nat.toDigits 10 position.line, Nat.toDigits 10 position.column) :=
  firstDigits_of_digitsAtFront <| digitsAtFront_eq_some_iff.mpr
    ⟨isNumber_toDigits _, isNumber_toDigits _, colon, rest, ends, rfl⟩

theorem firstDigits_atText (words : List Char) (colon : Bool) (position : Position) :
    firstDigits (words ++ atText colon position) = (firstDigits words).or
      (some (Nat.toDigits 10 position.line, Nat.toDigits 10 position.column)) :=
  firstDigits_append words colon (isNumber_toDigits _) (isNumber_toDigits _)

/-- The position that is found in a text is the first one written, if it fits. -/
theorem position?_eq_some {position : Position} (found : firstDigits text =
      some (Nat.toDigits 10 position.line, Nat.toDigits 10 position.column))
    (lineFits : position.line < 2 ^ 31) (columnFits : position.column < 2 ^ 31) :
    position? text = some position := by
  rw [position?, found]
  simp only [Option.bind_eq_bind, Option.bind_some, smallValue_toDigits lineFits,
    smallValue_toDigits columnFits]
  rfl

/-- A message that ends in a position names it, if the words before it name no place. -/
theorem position?_append_of_not (colon : Bool) {words : List Char} {position : Position}
    (unnamed : ¬ NamesPlace words) (lineFits : position.line < 2 ^ 31)
    (columnFits : position.column < 2 ^ 31) :
    position? (words ++ atText colon position) = some position := by
  refine position?_eq_some ?_ lineFits columnFits
  rw [firstDigits_atText, firstDigits_eq_none unnamed, Option.none_or]

/-- Where the words of a message name a place, its position is that of the words, whatever it
ends in. -/
theorem position?_append_of_namesPlace (colon : Bool) {words : List Char} (position : Position)
    (named : NamesPlace words) :
    position? (words ++ atText colon position) = position? words := by
  obtain ⟨digits, found⟩ := Option.ne_none_iff_exists'.mp (firstDigits_ne_none_iff.mpr named)
  rw [position?, position?, firstDigits_atText, found, Option.some_or]

theorem position?_eq_none {words : List Char} (unnamed : ¬ NamesPlace words) :
    position? words = none := by
  rw [position?, firstDigits_eq_none unnamed]
  rfl

end SqlImage.Text.Located
