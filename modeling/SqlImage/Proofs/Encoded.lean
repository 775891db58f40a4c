/-
This file says what UTF-8 is and proves that reading it is exact. The bytes of a
character are those that Lean's own encoding gives it, and bytes are well formed if
they are the bytes of a text. A first byte fixes how many bytes follow and in which
range the next one lies; bytes in these ranges are just what a character can begin
with, and if there are enough of them they are a character. Reading stops at the
first place where no character stands, so what it has read by then is the longest
well-formed beginning.
-/

import Mathlib.Data.List.Basic
import SqlImage.Text.Utf8

namespace SqlImage.Text.Utf8

/-! ### The bytes of a character -/

/-- The bytes of a character. -/
def units (character : Char) : List Nat := (String.utf8EncodeChar character).map UInt8.toNat

/-- The bytes of a text. -/
def encoded (text : List Char) : List Nat := text.flatMap units

/-- The bytes are the first ones of some character, or all of them. -/
def Begins (bytes : List Nat) : Prop := ∃ character, bytes <+: units character

section Units

variable {character : Char}

theorem units_one (small : character.toNat < 0x80) : units character = [character.toNat] := by
  unfold Char.toNat at *
  simp only [units, String.utf8EncodeChar]
  rw [if_pos (by omega)]
  simp only [List.map_cons, List.map_nil, UInt8.toNat_ofNat']
  congr 1
  omega

theorem units_two (large : 0x80 ≤ character.toNat) (small : character.toNat < 0x800) :
    units character = [character.toNat / 64 + 0xC0, character.toNat % 64 + 0x80] := by
  unfold Char.toNat at *
  simp only [units, String.utf8EncodeChar]
  rw [if_neg (by omega), if_pos (by omega)]
  simp only [List.map_cons, List.map_nil, UInt8.toNat_ofNat']
  congr 2 <;> omega

theorem units_three (large : 0x800 ≤ character.toNat) (small : character.toNat < 0x10000) :
    units character = [character.toNat / 4096 + 0xE0, character.toNat / 64 % 64 + 0x80,
      character.toNat % 64 + 0x80] := by
  unfold Char.toNat at *
  simp only [units, String.utf8EncodeChar]
  rw [if_neg (by omega), if_neg (by omega), if_pos (by omega)]
  simp only [List.map_cons, List.map_nil, UInt8.toNat_ofNat']
  congr 3 <;> omega

theorem units_four (large : 0x10000 ≤ character.toNat) :
    units character = [character.toNat / 262144 + 0xF0, character.toNat / 4096 % 64 + 0x80,
      character.toNat / 64 % 64 + 0x80, character.toNat % 64 + 0x80] := by
  have valid : character.toNat.isValidChar := character.valid
  unfold Char.toNat at *
  simp only [units, String.utf8EncodeChar]
  rw [if_neg (by omega), if_neg (by omega), if_neg (by omega)]
  simp only [List.map_cons, List.map_nil, UInt8.toNat_ofNat']
  congr 4 <;> omega

theorem length_units (character : Char) : (units character).length = character.utf8Size := by
  rw [units, List.length_map, String.length_utf8EncodeChar]

theorem units_ne_nil (character : Char) : units character ≠ [] := by
  rw [units, ne_eq, List.map_eq_nil_iff]
  exact String.utf8EncodeChar_ne_nil

end Units

theorem encoded_cons (character : Char) (text : List Char) :
    encoded (character :: text) = units character ++ encoded text := List.flatMap_cons

theorem encoded_append (text more : List Char) :
    encoded (text ++ more) = encoded text ++ encoded more := List.flatMap_append

/-! ### What a first byte fixes -/

/-- The first bytes, by the number of bytes that follow. -/
theorem ofByte_eq_some_iff {byte : Nat} {lead : Lead} :
    Lead.ofByte byte = some lead ↔
      (byte < 0x80 ∧ lead = ⟨0, byte, 0, 0⟩) ∨
      (0xC2 ≤ byte ∧ byte < 0xE0 ∧ lead = ⟨1, byte - 0xC0, 0x80, 0xBF⟩) ∨
      (0xE0 ≤ byte ∧ byte < 0xF0 ∧ lead = ⟨2, byte - 0xE0, if byte = 0xE0 then 0xA0 else 0x80,
        if byte = 0xED then 0x9F else 0xBF⟩) ∨
      (0xF0 ≤ byte ∧ byte < 0xF5 ∧ lead = ⟨3, byte - 0xF0, if byte = 0xF0 then 0x90 else 0x80,
        if byte = 0xF4 then 0x8F else 0xBF⟩) := by
  unfold Lead.ofByte
  grind

/-- The bytes are the first ones of those that may follow a first byte, or all of them: the next
one in the given range and the later ones any continuation byte. -/
def Follows : (following low high : Nat) → List Nat → Prop
  | _, _, _, [] => True
  | 0, _, _, _ :: _ => False
  | following + 1, low, high, byte :: rest =>
    low ≤ byte ∧ byte ≤ high ∧ Follows following 0x80 0xBF rest

section Continuation

variable {following read payload low high : Nat} {bytes rest : List Nat}

theorem continuation_incomplete
    (found : continuation following read payload low high bytes = .error .incomplete) :
    bytes.length < following ∧ Follows following low high bytes := by
  fun_induction continuation following read payload low high bytes with
  | case1 => cases found
  | case2 => exact ⟨Nat.succ_pos _, trivial⟩
  | case3 following read payload low high byte rest inside inductionHypothesis =>
    obtain ⟨shorter, follows⟩ := inductionHypothesis found
    exact ⟨Nat.succ_lt_succ shorter, inside.1, inside.2, follows⟩
  | case4 => cases found

theorem continuation_invalid {length : Nat}
    (found : continuation following read payload low high bytes = .error (.invalid length)) :
    ∃ passed < following, length = read + passed ∧ passed < bytes.length ∧
      Follows following low high (bytes.take passed) ∧
      ¬ Follows following low high (bytes.take (passed + 1)) := by
  fun_induction continuation following read payload low high bytes with
  | case1 => cases found
  | case2 => cases found
  | case3 following read payload low high byte rest inside inductionHypothesis =>
    obtain ⟨passed, fewer, lengthEq, shorter, follows, stops⟩ := inductionHypothesis found
    refine ⟨passed + 1, Nat.succ_lt_succ fewer, by omega, Nat.succ_lt_succ shorter,
      ⟨inside.1, inside.2, follows⟩, fun beyond => stops beyond.2.2⟩
  | case4 following read payload low high byte rest outside =>
    cases found
    refine ⟨0, Nat.succ_pos _, rfl, Nat.succ_pos _, trivial, fun beyond => outside ?_⟩
    exact ⟨beyond.1, beyond.2.1⟩

theorem continuation_succ_eq_ok {found : Nat × List Nat} :
    continuation (following + 1) read payload low high bytes = .ok found ↔
      ∃ byte rest, bytes = byte :: rest ∧ low ≤ byte ∧ byte ≤ high ∧
        continuation following (read + 1) (payload * 64 + byte % 64) 0x80 0xBF rest =
          .ok found := by
  cases bytes with
  | nil => exact ⟨nofun, nofun⟩
  | cons byte rest =>
    rw [continuation]
    split
    · rename_i inside
      constructor
      · intro same
        exact ⟨byte, rest, rfl, inside.1, inside.2, same⟩
      · rintro ⟨_, _, same, -, -, further⟩
        cases same
        exact further
    · rename_i outside
      constructor
      · exact nofun
      · rintro ⟨_, _, same, least, greatest, -⟩
        cases same
        exact absurd ⟨least, greatest⟩ outside

/-- If enough bytes follow in the right ranges, they are read. -/
theorem continuation_of_follows {taken : List Nat} (length : taken.length = following)
    (follows : Follows following low high taken) :
    ∃ codePoint, continuation following read payload low high (taken ++ rest) =
      .ok (codePoint, rest) := by
  induction following generalizing read payload low high taken with
  | zero =>
    cases List.length_eq_zero_iff.mp length
    exact ⟨payload, rfl⟩
  | succ following inductionHypothesis =>
    cases taken with
    | nil => cases length
    | cons byte taken =>
      obtain ⟨least, greatest, further⟩ := follows
      obtain ⟨codePoint, found⟩ := inductionHypothesis (Nat.succ.inj length) further
      exact ⟨codePoint, continuation_succ_eq_ok.mpr ⟨byte, _, rfl, least, greatest, found⟩⟩

theorem Follows.of_prefix {longer : List Nat} (follows : Follows following low high longer)
    (begins : bytes <+: longer) : Follows following low high bytes := by
  induction bytes generalizing following low high longer with
  | nil => cases following <;> trivial
  | cons byte bytes inductionHypothesis =>
    obtain ⟨others, rfl⟩ := begins
    cases following with
    | zero => exact follows.elim
    | succ following =>
      exact ⟨follows.1, follows.2.1, inductionHypothesis follows.2.2 (List.prefix_append _ _)⟩

/-- Bytes that may follow can be completed. -/
theorem Follows.complete (inhabited : low ≤ high) (follows : Follows following low high bytes) :
    ∃ more, (bytes ++ more).length = following ∧ Follows following low high (bytes ++ more) := by
  induction following generalizing low high bytes with
  | zero =>
    cases bytes with
    | nil => exact ⟨[], rfl, trivial⟩
    | cons byte bytes => exact follows.elim
  | succ following inductionHypothesis =>
    have tail : (0x80 : Nat) ≤ 0xBF := by decide
    cases bytes with
    | nil =>
      have nothing : Follows following 0x80 0xBF [] := by cases following <;> trivial
      obtain ⟨more, length, further⟩ := inductionHypothesis tail nothing
      exact ⟨low :: more, congrArg Nat.succ length, Nat.le_refl _, inhabited, further⟩
    | cons byte bytes =>
      obtain ⟨more, length, further⟩ := inductionHypothesis tail follows.2.2
      exact ⟨more, congrArg Nat.succ length, follows.1, follows.2.1, further⟩

end Continuation

/-! ### Characters -/

section Character

variable {byte : Nat} {rest later : List Nat} {next : Char}

theorem toNat_ofNat_of_valid {codePoint : Nat} (valid : codePoint.isValidChar) :
    (Char.ofNat codePoint).toNat = codePoint := by
  unfold Char.ofNat
  rw [dif_pos valid]
  rfl

theorem units_injective : Function.Injective units := by
  intro first second same
  have encodedSame : String.utf8EncodeChar first = String.utf8EncodeChar second :=
    List.map_injective_iff.mpr (fun _ _ => UInt8.toNat_inj.mp) same
  have decoded := fun character : Char =>
    @ByteArray.utf8DecodeChar?_utf8EncodeChar_append .empty character
  have firstDecoded := decoded first
  rw [encodedSame, decoded second] at firstDecoded
  exact (Option.some.inj firstDecoded).symm

theorem units_ofNat_one (small : byte < 0x80) : units (.ofNat byte) = [byte] := by
  have valid : byte.isValidChar := .inl (by omega)
  rw [units_one] <;> rw [toNat_ofNat_of_valid valid]
  exact small

theorem units_ofNat_two {second : Nat} (least : 0xC2 ≤ byte) (greatest : byte < 0xE0)
    (low : 0x80 ≤ second) (high : second ≤ 0xBF) :
    units (.ofNat ((byte - 0xC0) * 64 + second % 64)) = [byte, second] := by
  have valid : ((byte - 0xC0) * 64 + second % 64).isValidChar := .inl (by omega)
  rw [units_two] <;> rw [toNat_ofNat_of_valid valid]
  · simp only [List.cons.injEq, and_true]
    omega
  · omega
  · omega

theorem units_ofNat_three {second third : Nat} (least : 0xE0 ≤ byte) (greatest : byte < 0xF0)
    (low : (if byte = 0xE0 then 0xA0 else 0x80) ≤ second)
    (high : second ≤ if byte = 0xED then 0x9F else 0xBF)
    (lowThird : 0x80 ≤ third) (highThird : third ≤ 0xBF) :
    units (.ofNat (((byte - 0xE0) * 64 + second % 64) * 64 + third % 64)) =
      [byte, second, third] := by
  have valid : (((byte - 0xE0) * 64 + second % 64) * 64 + third % 64).isValidChar := by
    unfold Nat.isValidChar
    split_ifs at low high <;> omega
  rw [units_three] <;> rw [toNat_ofNat_of_valid valid]
  · simp only [List.cons.injEq, and_true]
    split_ifs at low high <;> omega
  · split_ifs at low high <;> omega
  · omega

theorem units_ofNat_four {second third fourth : Nat} (least : 0xF0 ≤ byte) (greatest : byte < 0xF5)
    (low : (if byte = 0xF0 then 0x90 else 0x80) ≤ second)
    (high : second ≤ if byte = 0xF4 then 0x8F else 0xBF)
    (lowThird : 0x80 ≤ third) (highThird : third ≤ 0xBF)
    (lowFourth : 0x80 ≤ fourth) (highFourth : fourth ≤ 0xBF) :
    units (.ofNat ((((byte - 0xF0) * 64 + second % 64) * 64 + third % 64) * 64 + fourth % 64)) =
      [byte, second, third, fourth] := by
  have valid : ((((byte - 0xF0) * 64 + second % 64) * 64 + third % 64) * 64 +
      fourth % 64).isValidChar := by
    unfold Nat.isValidChar
    split_ifs at low high <;> omega
  rw [units_four] <;> rw [toNat_ofNat_of_valid valid]
  · simp only [List.cons.injEq, and_true]
    split_ifs at low high <;> omega
  · split_ifs at low high <;> omega

/-- The character read has just the bytes taken. -/
theorem character_eq_ok (found : character byte rest = .ok (next, later)) :
    byte :: rest = units next ++ later := by
  unfold character at found
  cases lead : Lead.ofByte byte with
  | none => simp only [lead] at found; cases found
  | some fixed =>
    simp only [lead] at found
    cases read : continuation fixed.following 1 fixed.payload fixed.low fixed.high rest with
    | error flaw => simp only [read] at found; cases found
    | ok pair =>
      obtain ⟨codePoint, remaining⟩ := pair
      simp only [read, Except.ok.injEq, Prod.mk.injEq] at found
      obtain ⟨rfl, rfl⟩ := found
      rcases ofByte_eq_some_iff.mp lead with ⟨small, rfl⟩ | ⟨least, greatest, rfl⟩ |
        ⟨least, greatest, rfl⟩ | ⟨least, greatest, rfl⟩
      · cases read
        rw [units_ofNat_one small]
        rfl
      · obtain ⟨second, _, rfl, low, high, read⟩ := continuation_succ_eq_ok.mp read
        cases read
        rw [units_ofNat_two least greatest low high]
        rfl
      · obtain ⟨second, _, rfl, low, high, read⟩ := continuation_succ_eq_ok.mp read
        obtain ⟨third, _, rfl, lowThird, highThird, read⟩ := continuation_succ_eq_ok.mp read
        cases read
        rw [units_ofNat_three least greatest low high lowThird highThird]
        rfl
      · obtain ⟨second, _, rfl, low, high, read⟩ := continuation_succ_eq_ok.mp read
        obtain ⟨third, _, rfl, lowThird, highThird, read⟩ := continuation_succ_eq_ok.mp read
        obtain ⟨fourth, _, rfl, lowFourth, highFourth, read⟩ := continuation_succ_eq_ok.mp read
        cases read
        rw [units_ofNat_four least greatest low high lowThird highThird lowFourth highFourth]
        rfl

/-- The first byte of a character fixes what follows it. -/
theorem follows_of_units {more : List Nat} (bytes : units next = byte :: more) :
    ∃ lead, Lead.ofByte byte = some lead ∧ more.length = lead.following ∧
      Follows lead.following lead.low lead.high more := by
  have valid : next.toNat.isValidChar := next.valid
  unfold Nat.isValidChar at valid
  by_cases one : next.toNat < 0x80
  · rw [units_one one] at bytes
    cases bytes
    exact ⟨_, ofByte_eq_some_iff.mpr (.inl ⟨one, rfl⟩), rfl, trivial⟩
  by_cases two : next.toNat < 0x800
  · rw [units_two (by omega) two] at bytes
    cases bytes
    refine ⟨_, ofByte_eq_some_iff.mpr (.inr (.inl ⟨by omega, by omega, rfl⟩)), rfl, ?_⟩
    refine ⟨?_, ?_, trivial⟩ <;> dsimp only <;> omega
  by_cases three : next.toNat < 0x10000
  · rw [units_three (by omega) three] at bytes
    cases bytes
    refine ⟨_, ofByte_eq_some_iff.mpr (.inr (.inr (.inl ⟨by omega, by omega, rfl⟩))), rfl, ?_⟩
    refine ⟨?_, ?_, by omega, by omega, trivial⟩ <;> dsimp only <;> split_ifs <;> omega
  · rw [units_four (by omega)] at bytes
    cases bytes
    refine ⟨_, ofByte_eq_some_iff.mpr (.inr (.inr (.inr ⟨by omega, by omega, rfl⟩))), rfl, ?_⟩
    refine ⟨?_, ?_, by omega, by omega, by omega, by omega, trivial⟩ <;> dsimp only <;>
      split_ifs <;> omega

/-- A character is read from its bytes, whatever comes after them. -/
theorem character_units {more : List Nat} (bytes : units next = byte :: more) :
    character byte (more ++ later) = .ok (next, later) := by
  obtain ⟨lead, fixed, length, follows⟩ := follows_of_units bytes
  obtain ⟨codePoint, read⟩ :=
    @continuation_of_follows _ 1 lead.payload _ _ later more length follows
  have found : character byte (more ++ later) = .ok (Char.ofNat codePoint, later) := by
    simp only [character, fixed, read]
  have same := character_eq_ok found
  rw [← List.cons_append, List.append_cancel_right_eq, ← bytes] at same
  rw [found, units_injective same]

/-- Bytes are the first ones of a character if the first byte and the ranges after it allow. -/
theorem begins_cons_iff :
    Begins (byte :: rest) ↔ ∃ lead, Lead.ofByte byte = some lead ∧
      Follows lead.following lead.low lead.high rest := by
  constructor
  · rintro ⟨whole, more, same⟩
    obtain ⟨lead, fixed, -, follows⟩ := follows_of_units same.symm
    exact ⟨lead, fixed, follows.of_prefix (List.prefix_append rest more)⟩
  · rintro ⟨lead, fixed, follows⟩
    have inhabited : lead.low ≤ lead.high := by
      rcases ofByte_eq_some_iff.mp fixed with ⟨-, rfl⟩ | ⟨-, -, rfl⟩ | ⟨-, -, rfl⟩ | ⟨-, -, rfl⟩
      · exact Nat.le_refl 0
      · exact Nat.le_add_right 0x80 0x3F
      · dsimp only
        split_ifs <;> omega
      · dsimp only
        split_ifs <;> omega
    obtain ⟨more, length, whole⟩ := follows.complete inhabited
    obtain ⟨codePoint, read⟩ :=
      @continuation_of_follows _ 1 lead.payload _ _ [] (rest ++ more) length whole
    have found : character byte (rest ++ more ++ []) = .ok (Char.ofNat codePoint, []) := by
      simp only [character, fixed, read]
    have same := character_eq_ok found
    rw [List.append_nil, List.append_nil] at same
    exact ⟨_, more, same⟩

/-- The bytes of no character are the first ones of another. -/
theorem units_append_inj {first second : Char} {after others : List Nat}
    (same : units first ++ after = units second ++ others) : first = second ∧ after = others := by
  obtain ⟨byte, more, firstUnits⟩ := List.exists_cons_of_ne_nil (units_ne_nil first)
  obtain ⟨head, tail, secondUnits⟩ := List.exists_cons_of_ne_nil (units_ne_nil second)
  rw [firstUnits, secondUnits, List.cons_append, List.cons_append] at same
  obtain ⟨rfl, bytes⟩ := List.cons.inj same
  have firstFound := @character_units _ after _ _ firstUnits
  rw [bytes, character_units secondUnits] at firstFound
  cases firstFound
  exact ⟨rfl, rfl⟩

end Character

/-! ### Where reading stops -/

/-- What a flaw says of the bytes it is found at. They are incomplete if they are the first bytes
of a character, but not all of them. They are invalid after a length if one byte more than that
is no beginning of a character, and these many are, except where not even the first byte is. -/
def Flaw.Marks : Flaw → List Nat → Prop
  | .incomplete, bytes => Begins bytes ∧ bytes ≠ []
  | .invalid length, bytes => 1 ≤ length ∧ length ≤ 3 ∧ length ≤ bytes.length ∧
      (1 < length → Begins (bytes.take length)) ∧ ¬ Begins (bytes.take (length + 1))

section Stops

variable {byte : Nat} {rest bytes : List Nat} {flaw : Flaw} {text : List Char}

theorem ofByte_following {lead : Lead} (fixed : Lead.ofByte byte = some lead) :
    lead.following ≤ 3 := by
  rcases ofByte_eq_some_iff.mp fixed with ⟨-, rfl⟩ | ⟨-, -, rfl⟩ | ⟨-, -, rfl⟩ | ⟨-, -, rfl⟩ <;>
    dsimp only <;> omega

theorem not_begins_of_ofByte (unknown : Lead.ofByte byte = none) : ¬ Begins (byte :: rest) := by
  intro begins
  obtain ⟨lead, fixed, -⟩ := begins_cons_iff.mp begins
  rw [unknown] at fixed
  cases fixed

/-- A flaw is reported where no character stands, and it says what is wrong there. -/
theorem character_eq_error (found : character byte rest = .error flaw) :
    flaw.Marks (byte :: rest) ∧ ∀ next, ¬ units next <+: byte :: rest := by
  constructor
  · cases lead : Lead.ofByte byte with
    | none =>
      simp only [character, lead, Except.error.injEq] at found
      subst found
      refine ⟨Nat.le_refl 1, by decide, Nat.succ_pos _, fun more => absurd more (by decide), ?_⟩
      exact not_begins_of_ofByte lead
    | some fixed =>
      simp only [character, lead] at found
      cases read : continuation fixed.following 1 fixed.payload fixed.low fixed.high rest with
      | ok pair => simp only [read] at found; cases found
      | error stopped =>
        simp only [read, Except.error.injEq] at found
        subst found
        cases stopped with
        | incomplete =>
          obtain ⟨-, follows⟩ := continuation_incomplete read
          exact ⟨begins_cons_iff.mpr ⟨fixed, lead, follows⟩, List.cons_ne_nil _ _⟩
        | invalid length =>
          obtain ⟨passed, fewer, rfl, shorter, follows, stops⟩ := continuation_invalid read
          have most := ofByte_following lead
          have index : 1 + passed = passed + 1 := Nat.add_comm 1 passed
          refine ⟨Nat.le_add_right 1 passed, by omega, ?_, fun _ => ?_, fun begins => ?_⟩
          · rw [List.length_cons]
            omega
          · rw [index, List.take_succ_cons]
            exact begins_cons_iff.mpr ⟨fixed, lead, follows⟩
          · rw [index, List.take_succ_cons] at begins
            obtain ⟨other, same, beyond⟩ := begins_cons_iff.mp begins
            rw [lead] at same
            cases same
            exact stops beyond
  · rintro next ⟨later, whole⟩
    obtain ⟨head, more, bytes⟩ := List.exists_cons_of_ne_nil (units_ne_nil next)
    rw [bytes, List.cons_append] at whole
    cases whole
    rw [character_units bytes] at found
    cases found

/-- A text whose bytes start an input that goes on with no character is a beginning of the text
read before. -/
theorem prefix_of_encoded {before : List Char} (stops : ∀ next, ¬ units next <+: rest)
    (begins : encoded text <+: encoded before ++ rest) : text <+: before := by
  induction text generalizing before with
  | nil => exact List.nil_prefix
  | cons next text inductionHypothesis =>
    obtain ⟨later, same⟩ := begins
    rw [encoded_cons, List.append_assoc] at same
    cases before with
    | nil => exact absurd ⟨_, same⟩ (stops next)
    | cons first before =>
      rw [encoded_cons, List.append_assoc] at same
      obtain ⟨rfl, further⟩ := units_append_inj same
      rw [List.prefix_cons_inj]
      exact inductionHypothesis ⟨later, further⟩

theorem prefix_of_encoded_eq {more : List Char} (same : encoded text = encoded more) :
    text <+: more := by
  have stops : ∀ next, ¬ units next <+: [] := fun next none =>
    units_ne_nil next (List.prefix_nil.mp none)
  exact prefix_of_encoded stops ⟨[], congrArg (· ++ []) same⟩

theorem encoded_injective : Function.Injective encoded := fun _ _ same =>
  (prefix_of_encoded_eq same).eq_of_length_le (prefix_of_encoded_eq same.symm).length_le

theorem Flaw.Marks.ne_nil (marks : flaw.Marks bytes) : bytes ≠ [] := by
  cases flaw with
  | incomplete => exact marks.2
  | invalid length => exact List.ne_nil_of_length_pos (Nat.le_trans marks.1 marks.2.2.1)

end Stops

/-! ### Reading a whole input -/

section Decode

variable {fuel offset : Nat} {before text : List Char} {bytes : List Nat} {fault : Fault}

theorem decodeFrom_eq_ok (enough : bytes.length ≤ fuel)
    (found : decodeFrom fuel before offset bytes = .ok text) :
    ∃ more, text = before.reverse ++ more ∧ encoded more = bytes := by
  induction fuel generalizing before offset bytes with
  | zero =>
    cases List.length_eq_zero_iff.mp (Nat.le_zero.mp enough)
    cases found
    exact ⟨[], (List.append_nil _).symm, rfl⟩
  | succ fuel inductionHypothesis =>
    cases bytes with
    | nil =>
      cases found
      exact ⟨[], (List.append_nil _).symm, rfl⟩
    | cons byte rest =>
      cases read : character byte rest with
      | error flaw => simp only [decodeFrom, read] at found; cases found
      | ok pair =>
        obtain ⟨next, later⟩ := pair
        simp only [decodeFrom, read] at found
        have bytes := character_eq_ok read
        have shorter : later.length ≤ fuel := by
          have lengths := congrArg List.length bytes
          have positive := List.length_pos_iff.mpr (units_ne_nil next)
          rw [List.length_append, List.length_cons] at lengths
          rw [List.length_cons] at enough
          omega
        obtain ⟨more, rfl, same⟩ := inductionHypothesis shorter found
        refine ⟨next :: more, ?_, ?_⟩
        · rw [List.reverse_cons, List.append_assoc, List.singleton_append]
        · rw [encoded_cons, same, bytes]

theorem decodeFrom_eq_error (found : decodeFrom fuel before offset bytes = .error fault) :
    ∃ more rest, fault.before = before.reverse ++ more ∧ bytes = encoded more ++ rest ∧
      fault.offset = offset + (encoded more).length ∧ fault.flaw.Marks rest ∧
      ∀ next, ¬ units next <+: rest := by
  induction fuel generalizing before offset bytes with
  | zero => cases bytes <;> cases found
  | succ fuel inductionHypothesis =>
    cases bytes with
    | nil => cases found
    | cons byte rest =>
      cases read : character byte rest with
      | error flaw =>
        simp only [decodeFrom, read] at found
        cases found
        obtain ⟨marks, stops⟩ := character_eq_error read
        exact ⟨[], byte :: rest, (List.append_nil _).symm, rfl, rfl, marks, stops⟩
      | ok pair =>
        obtain ⟨next, later⟩ := pair
        simp only [decodeFrom, read] at found
        obtain ⟨more, rest, beforeEq, rfl, offsetEq, marks, stops⟩ := inductionHypothesis found
        refine ⟨next :: more, rest, ?_, ?_, ?_, marks, stops⟩
        · rw [beforeEq, List.reverse_cons, List.append_assoc, List.singleton_append]
        · rw [character_eq_ok read, encoded_cons, List.append_assoc]
        · rw [offsetEq, encoded_cons, List.length_append, length_units, Nat.add_assoc]

/-- A fault describes an input: what is before it is the longest beginning of the input that is
well formed, its offset is the length of that, and its flaw says what is wrong after it. -/
structure Fault.Describes (fault : Fault) (bytes : List Nat) : Prop where
  wellFormed : encoded fault.before <+: bytes
  longest : ∀ text, encoded text <+: bytes → text <+: fault.before
  offset : fault.offset = (encoded fault.before).length
  flaw : fault.flaw.Marks (bytes.drop fault.offset)

/-- Reading succeeds for the bytes of a text, with that text, and for no others. -/
theorem decode_eq_ok_iff : decode bytes = .ok text ↔ encoded text = bytes := by
  have sound : ∀ {read}, decode bytes = .ok read → encoded read = bytes := by
    intro read found
    obtain ⟨more, rfl, same⟩ := decodeFrom_eq_ok (Nat.le_refl _) found
    exact same
  refine ⟨sound, ?_⟩
  rintro rfl
  cases found : decode (encoded text) with
  | ok read => rw [encoded_injective (sound found)]
  | error fault =>
    obtain ⟨more, rest, -, same, -, marks, stops⟩ := decodeFrom_eq_error found
    have begins : encoded text <+: encoded more ++ rest :=
      ⟨[], (List.append_nil _).trans same⟩
    obtain ⟨later, rfl⟩ := prefix_of_encoded stops begins
    rw [encoded_append, List.append_assoc, List.self_eq_append_right] at same
    exact absurd (List.append_eq_nil_iff.mp same).2 marks.ne_nil

theorem decode_eq_error (found : decode bytes = .error fault) : fault.Describes bytes := by
  obtain ⟨more, rest, beforeEq, rfl, offsetEq, marks, stops⟩ := decodeFrom_eq_error found
  rw [List.reverse_nil, List.nil_append] at beforeEq
  rw [Nat.zero_add] at offsetEq
  subst beforeEq
  refine ⟨List.prefix_append _ _, fun text => prefix_of_encoded stops, offsetEq, ?_⟩
  rw [offsetEq, List.drop_left]
  exact marks

end Decode

end SqlImage.Text.Utf8
