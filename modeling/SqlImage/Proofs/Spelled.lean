/-
This file says that numbers are read as they were written. An integer of 64 bits is
read from its digits. Of a floating-point number it says only that its text is read
alike wherever it ends: if the text alone gives the number back, it does so inside of
a longer text, as long as nothing behind it could go on with the number.
-/

import SqlImage.Proofs.Escaped
import SqlImage.Proofs.Outcome

namespace SqlImage.Json

namespace Cursor

variable {cursor : Cursor} {rest : List Char}

/-! ### Integers -/

/-- What stands behind a number does not go on with it. -/
def EndsNumber (rest : List Char) : Prop :=
  ∀ character ∈ rest.head?,
    character.isDigit = false ∧ character ≠ '.' ∧ character ≠ 'e' ∧ character ≠ 'E'

theorem endsNumber_nil : EndsNumber [] := nofun

theorem EndsNumber.digits (ends : EndsNumber rest) :
    rest.takeWhile Char.isDigit = [] ∧ rest.dropWhile Char.isDigit = rest := by
  cases rest with
  | nil => exact ⟨rfl, rfl⟩
  | cons character rest =>
    have plain := (ends character rfl).1
    exact ⟨List.takeWhile_cons_of_neg (by simp [plain]),
      List.dropWhile_cons_of_neg (by simp [plain])⟩

theorem le_ofDigitChars (digits : List Char) (value : Nat) :
    value ≤ Nat.ofDigitChars 10 digits value := by
  rw [Nat.ofDigitChars_eq_ofDigitChars_zero]
  have scaled := Nat.le_mul_of_pos_left value (Nat.pow_pos (by decide : 0 < 10) :
    0 < 10 ^ digits.length)
  omega

theorem significandFrom_eq {digits : List Char} {value : Nat}
    (small : Nat.ofDigitChars 10 digits value < UInt64.size) :
    significandFrom value digits = (Nat.ofDigitChars 10 digits value, 0) := by
  induction digits generalizing value with
  | nil => rw [significandFrom, Nat.ofDigitChars_nil]
  | cons digit digits inductionHypothesis =>
    rw [Nat.ofDigitChars_cons, Nat.mul_comm 10] at small ⊢
    have fits := Nat.lt_of_le_of_lt (le_ofDigitChars digits _) small
    rw [significandFrom, if_pos fits, inductionHypothesis small]

/-- No digits of a number but those of zero begin with a zero. -/
theorem toDigits_eq_of_head (number : Nat) (zero : (Nat.toDigits 10 number).head? = some '0') :
    number = 0 := by
  induction number using Nat.strongRecOn with
  | ind number inductionHypothesis =>
    rw [Nat.toDigits_eq_if (by decide)] at zero
    split at zero
    · exact Nat.digitChar_eq_zero.mp (Option.some.inj zero)
    · rename_i large
      obtain ⟨first, more, digits⟩ := List.exists_cons_of_ne_nil
        (Nat.toDigits_ne_nil : Nat.toDigits 10 (number / 10) ≠ [])
      have none := inductionHypothesis (number / 10) (by omega)
      rw [digits] at zero none
      have nothing := none zero
      omega

theorem exists_cons_toDigits (magnitude : Nat) : ∃ first more,
    Nat.toDigits 10 magnitude = first :: more ∧ first.isDigit = true := by
  obtain ⟨first, more, shown⟩ := List.exists_cons_of_ne_nil
    (Nat.toDigits_ne_nil : Nat.toDigits 10 magnitude ≠ [])
  exact ⟨first, more, shown, Nat.isDigit_of_mem_toDigits (by decide) (by decide)
    (shown ▸ List.mem_cons_self)⟩

theorem number_digits {magnitude : Nat} (small : magnitude < UInt64.size) (negative : Bool)
    (ends : EndsNumber rest) (here : cursor.rest = Nat.toDigits 10 magnitude ++ rest) :
    ∃ next : Cursor, next.rest = rest ∧ next.size = cursor.size ∧
      cursor.number negative = .ok (integral negative magnitude, next) := by
  have isDigit : ∀ digit ∈ Nat.toDigits 10 magnitude, digit.isDigit = true := fun digit =>
    Nat.isDigit_of_mem_toDigits (by decide) (by decide)
  have digits : cursor.digits = (Nat.toDigits 10 magnitude, cursor.skipWhile Char.isDigit) := by
    rw [digits, here, List.takeWhile_append_of_pos isDigit, ends.digits.1, List.append_nil]
  have behind : (cursor.skipWhile Char.isDigit).rest = rest := by
    rw [rest_skipWhile, here, List.dropWhile_append_of_pos isDigit, ends.digits.2]
  have whole : significandFrom 0 (Nat.toDigits 10 magnitude) = (magnitude, 0) := by
    have found := @significandFrom_eq (Nat.toDigits 10 magnitude) 0
    rw [Nat.ofDigitChars_ten_toDigits] at found
    exact found small
  refine ⟨cursor.skipWhile Char.isDigit, behind, size_skipWhile _ _, ?_⟩
  obtain ⟨first, more, shown, firstDigit⟩ := exists_cons_toDigits magnitude
  have alone : ¬ (first = '0' ∧ (more ++ rest).head?.any Char.isDigit = true) := by
    rintro ⟨rfl, digit⟩
    have none := toDigits_eq_of_head magnitude (by rw [shown]; rfl)
    rw [none, Nat.toDigits_zero] at shown
    cases shown
    rw [List.nil_append] at digit
    cases rest with
    | nil => cases digit
    | cons character rest =>
      have plain := (ends character rfl).1
      simp [plain] at digit
  unfold number
  rw [here, shown, List.cons_append]
  simp only [firstDigit, digits, whole, Bool.not_true, Bool.false_eq_true, if_false, behind,
    Bool.and_eq_true, decide_eq_true_eq, alone, if_true]
  split
  · exact ((ends '.' rfl).2.1 rfl).elim
  · exact ((ends 'e' rfl).2.2.1 rfl).elim
  · exact ((ends 'E' rfl).2.2.2 rfl).elim
  · rfl

theorem value_of_digit (fuel : Nat) {first : Char}
    (here : cursor.skipBlanks.rest = first :: rest) (digit : first.isDigit = true) :
    cursor.value (fuel + 1) = (number cursor.skipBlanks false).map fun (written, cursor) =>
      (.number written, cursor) := by
  unfold value
  dsimp only
  rw [here]
  split
  all_goals
    rename_i same
    cases same
  case h_9 => rw [if_pos digit]
  all_goals cases digit

theorem value_of_minus (fuel : Nat) (here : cursor.skipBlanks.rest = '-' :: rest) :
    cursor.value (fuel + 1) = (number cursor.skipBlanks.skip true).map fun (written, cursor) =>
      (.number written, cursor) := by
  unfold value
  dsimp only
  rw [here]
  rfl

/-- An integer of 64 bits is read from its digits, with a sign in front of them or without one. -/
theorem value_integer {written : Int} (low : -(Nat.pow 2 63 : Int) ≤ written)
    (high : written < (UInt64.size : Int)) (ends : EndsNumber rest) (fuel : Nat)
    (here : cursor.skipBlanks.rest = (toString written).toList ++ rest) :
    ∃ next : Cursor, next.rest = rest ∧ next.size = cursor.size ∧
      cursor.value (fuel + 1) = .ok (.number (.integer written), next) := by
  cases written with
  | ofNat magnitude =>
    have text : (toString (Int.ofNat magnitude)).toList = Nat.toDigits 10 magnitude :=
      Nat.toList_repr
    rw [text] at here
    have small : magnitude < UInt64.size := Int.ofNat_lt.mp high
    obtain ⟨next, nextRest, nextSize, read⟩ := number_digits small false ends here
    refine ⟨next, nextRest, by rw [nextSize, skipBlanks, size_skipWhile], ?_⟩
    obtain ⟨first, more, shown, digit⟩ := exists_cons_toDigits magnitude
    rw [shown, List.cons_append] at here
    rw [value_of_digit fuel here digit, read]
    rfl
  | negSucc magnitude =>
    have text : (toString (Int.negSucc magnitude)).toList =
        '-' :: Nat.toDigits 10 (magnitude + 1) := by
      have spelled : toString (Int.negSucc magnitude) = "-" ++ (magnitude + 1).repr := rfl
      rw [spelled, String.toList_append, Nat.toList_repr]
      rfl
    rw [text, List.cons_append] at here
    have small : magnitude + 1 ≤ Nat.pow 2 63 := by omega
    have fits : magnitude + 1 < UInt64.size := Nat.lt_of_le_of_lt small (by decide)
    have behind : cursor.skipBlanks.skip.rest = Nat.toDigits 10 (magnitude + 1) ++ rest := by
      rw [rest_skip, here]
      rfl
    obtain ⟨next, nextRest, nextSize, read⟩ := number_digits fits true ends behind
    refine ⟨next, nextRest, by rw [nextSize, size_skip, skipBlanks, size_skipWhile], ?_⟩
    rw [value_of_minus fuel here, read, integral, if_neg (by decide), if_neg (by omega)]
    rfl

/-! ### Longer texts -/

/-- The sign of an exponent, and the cursor past it. -/
def exponentSign (cursor : Cursor) : Bool × Cursor :=
  match cursor.rest with
  | '+' :: _ => (false, cursor.skip)
  | '-' :: _ => (true, cursor.skip)
  | _ => (false, cursor)

/-- The rest of a floating-point number, of which the digits of the exponent are next. -/
def exponentDigits (below : Bool) (cursor : Cursor) (negative : Bool) (significand : Nat)
    (power : Int) : Except Fault (Number × Cursor) :=
  match cursor.rest with
  | [] => .error (cursor.fault .endInValue)
  | character :: _ =>
    if !character.isDigit then .error (cursor.faultAhead .invalidNumber)
    else
      match exponentFrom 0 0 cursor.digits.1 with
      | .ok value =>
        cursor.digits.2.real negative significand (if below then power - value else power + value)
      | .error count =>
        if below || significand = 0 then .ok (.real (Double.zero.signed negative), cursor.digits.2)
        else .error ⟨.numberOutOfRange, cursor.line, cursor.column + count⟩

/-- Whether an exponent begins here. -/
def atExponent (cursor : Cursor) : Bool :=
  cursor.rest.head? = some 'e' || cursor.rest.head? = some 'E'

theorem exists_cons_of_atExponent (marked : cursor.atExponent = true) :
    ∃ mark rest, cursor.rest = mark :: rest := by
  unfold atExponent at marked
  cases here : cursor.rest with
  | nil => simp [here] at marked
  | cons mark rest => exact ⟨mark, rest, rfl⟩

theorem exponentSign_eq (cursor : Cursor) : cursor.exponentSign =
    if cursor.rest.head? = some '+' then (false, cursor.skip)
    else if cursor.rest.head? = some '-' then (true, cursor.skip) else (false, cursor) := by
  unfold exponentSign
  cases cursor.rest with
  | nil => rfl
  | cons character rest => split <;> simp_all

theorem behindDigits_eq (cursor : Cursor) (negative : Bool) (significand : Nat) (power : Int) :
    cursor.behindDigits negative significand power =
      if cursor.atExponent then cursor.exponent negative significand power
      else cursor.real negative significand power := by
  unfold behindDigits atExponent
  cases cursor.rest with
  | nil => rfl
  | cons character rest => split <;> simp_all

theorem exponent_eq (cursor : Cursor) (negative : Bool) (significand : Nat) (power : Int) :
    cursor.exponent negative significand power =
      exponentDigits cursor.skip.exponentSign.1 cursor.skip.exponentSign.2 negative significand
        power :=
  rfl

/-- The rest of a number behind a point. -/
def behindPoint (cursor : Cursor) (negative : Bool) (significand left : Nat) :
    Except Fault (Number × Cursor) :=
  if cursor.digits.1.isEmpty then
    .error (cursor.digits.2.faultAhead
      (if cursor.digits.2.rest.isEmpty then .endInValue else .invalidNumber))
  else
    cursor.digits.2.behindDigits negative (significandFrom significand cursor.digits.1).1
      ((left : Int) -
        (cursor.digits.1.length - (significandFrom significand cursor.digits.1).2 : Nat))

/-- The rest of a number behind the digits of its whole part. -/
def behindWhole (cursor : Cursor) (negative : Bool) (significand left : Nat) :
    Except Fault (Number × Cursor) :=
  match cursor.rest with
  | '.' :: _ => cursor.skip.behindPoint negative significand left
  | 'e' :: _ | 'E' :: _ => cursor.exponent negative significand left
  | _ =>
    if left = 0 then .ok (integral negative significand, cursor)
    else cursor.real negative significand left

theorem behindWhole_eq (cursor : Cursor) (negative : Bool) (significand left : Nat) :
    cursor.behindWhole negative significand left =
      if cursor.rest.head? = some '.' then cursor.skip.behindPoint negative significand left
      else if cursor.atExponent then cursor.exponent negative significand left
      else if left = 0 then .ok (integral negative significand, cursor)
      else cursor.real negative significand left := by
  unfold behindWhole atExponent
  cases cursor.rest with
  | nil => rfl
  | cons character rest => split <;> simp_all

theorem number_eq {first : Char} (here : cursor.rest = first :: rest)
    (digit : first.isDigit = true)
    (alone : ¬ (decide (first = '0') && rest.head?.any Char.isDigit) = true) (negative : Bool) :
    cursor.number negative = cursor.digits.2.behindWhole negative
      (significandFrom 0 cursor.digits.1).1 (significandFrom 0 cursor.digits.1).2 := by
  unfold number
  rw [here]
  dsimp only
  rw [if_neg (by simp [digit]), if_neg alone]
  rfl

section Prolonged

variable {behind : List Char} {size : Nat} {short long : Cursor} {negative : Bool}
  {significand : Nat} {power : Int}

/-- A cursor of a text of the given size stands on what another cursor stands on, with something
behind it. -/
def Prolonged (behind : List Char) (size : Nat) (short long : Cursor) : Prop :=
  long.rest = short.rest ++ behind ∧ long.size = size

/-- Whatever number is read in one way is read in another way as well, with more behind it. -/
def Carries (behind : List Char) (size : Nat) (run other : Except Fault (Number × Cursor)) : Prop :=
  ∀ written after, run = .ok (written, after) →
    ∃ next, other = .ok (written, next) ∧ Prolonged behind size after next

theorem carries_error (fault : Fault) (other : Except Fault (Number × Cursor)) :
    Carries behind size (.error fault) other := nofun

theorem carries_ok (written : Number) (prolonged : Prolonged behind size short long) :
    Carries behind size (.ok (written, short)) (.ok (written, long)) := by
  rintro _ _ ⟨⟩
  exact ⟨long, rfl, prolonged⟩

theorem Prolonged.skip (prolonged : Prolonged behind size short long) {character : Char}
    {rest : List Char} (here : short.rest = character :: rest) :
    Prolonged behind size short.skip long.skip := by
  refine ⟨?_, by rw [size_skip, prolonged.2]⟩
  rw [rest_skip, rest_skip, prolonged.1, here]
  rfl

theorem Prolonged.head? (prolonged : Prolonged behind size short long) {character : Char}
    {rest : List Char} (here : short.rest = character :: rest) :
    long.rest.head? = short.rest.head? := by
  rw [prolonged.1, here]
  rfl

/-- Nothing that stands behind a number is taken for its exponent. -/
theorem Prolonged.atExponent (prolonged : Prolonged behind size short long)
    (ends : EndsNumber behind) : long.atExponent = short.atExponent := by
  unfold Cursor.atExponent
  cases here : short.rest with
  | nil =>
    rw [prolonged.1, here, List.nil_append]
    cases behind with
    | nil => rfl
    | cons character rest => simp [(ends character rfl).2]
  | cons character rest => rw [prolonged.head? here, here]

theorem EndsNumber.append (ends : EndsNumber behind) (text : List Char) :
    (text ++ behind).takeWhile Char.isDigit = text.takeWhile Char.isDigit ∧
      (text ++ behind).dropWhile Char.isDigit = text.dropWhile Char.isDigit ++ behind := by
  induction text with
  | nil => exact ends.digits
  | cons character text inductionHypothesis =>
    cases digit : character.isDigit with
    | true => simp [digit, inductionHypothesis]
    | false => simp [digit]

theorem Prolonged.digits (prolonged : Prolonged behind size short long)
    (ends : EndsNumber behind) :
    long.digits.1 = short.digits.1 ∧ Prolonged behind size short.digits.2 long.digits.2 := by
  obtain ⟨taken, dropped⟩ := ends.append short.rest
  unfold Cursor.digits
  refine ⟨by rw [prolonged.1, taken], ?_, by rw [size_skipWhile, prolonged.2]⟩
  rw [rest_skipWhile, rest_skipWhile, prolonged.1, dropped]

theorem carries_real (prolonged : Prolonged behind size short long) :
    Carries behind size (short.real negative significand power)
      (long.real negative significand power) := by
  unfold real
  cases Double.ofScaled? negative significand power with
  | none => exact carries_error _ _
  | some value => exact carries_ok _ prolonged

theorem carries_exponentDigits (ends : EndsNumber behind) {below : Bool}
    (prolonged : Prolonged behind size short long) :
    Carries behind size (exponentDigits below short negative significand power)
      (exponentDigits below long negative significand power) := by
  obtain ⟨same, after⟩ := prolonged.digits ends
  unfold exponentDigits
  rw [prolonged.1, same]
  cases short.rest with
  | nil => exact carries_error _ _
  | cons character rest =>
    rw [List.cons_append]
    dsimp only
    cases character.isDigit with
    | false => exact carries_error _ _
    | true =>
      cases exponentFrom 0 0 short.digits.1 with
      | ok value => exact carries_real after
      | error count =>
        dsimp only
        split
        · exact carries_error _ _
        · split
          · exact carries_ok _ after
          · exact carries_error _ _

theorem carries_exponent (ends : EndsNumber behind) (prolonged : Prolonged behind size short long)
    {mark : Char} {rest : List Char} (here : short.rest = mark :: rest) :
    Carries behind size (short.exponent negative significand power)
      (long.exponent negative significand power) := by
  have skipped := prolonged.skip here
  rw [exponent_eq, exponent_eq]
  cases next : short.skip.rest with
  | nil =>
    have none : short.skip.exponentSign = (false, short.skip) := by
      rw [exponentSign, next]
    rw [none, exponentDigits, next]
    exact carries_error _ _
  | cons character more =>
    have signed : long.skip.exponentSign.1 = short.skip.exponentSign.1 ∧
        Prolonged behind size short.skip.exponentSign.2 long.skip.exponentSign.2 := by
      have behindSign := skipped.skip next
      rw [exponentSign_eq, exponentSign_eq, skipped.head? next]
      split
      · exact ⟨rfl, behindSign⟩
      · split
        · exact ⟨rfl, behindSign⟩
        · exact ⟨rfl, skipped⟩
    rw [signed.1]
    exact carries_exponentDigits ends signed.2

theorem carries_behindDigits (ends : EndsNumber behind)
    (prolonged : Prolonged behind size short long) :
    Carries behind size (short.behindDigits negative significand power)
      (long.behindDigits negative significand power) := by
  rw [behindDigits_eq, behindDigits_eq]
  rw [prolonged.atExponent ends]
  split
  · rename_i marked
    obtain ⟨mark, rest, here⟩ := exists_cons_of_atExponent marked
    exact carries_exponent ends prolonged here
  · exact carries_real prolonged

theorem carries_behindPoint (ends : EndsNumber behind) {left : Nat}
    (prolonged : Prolonged behind size short long) :
    Carries behind size (short.behindPoint negative significand left)
      (long.behindPoint negative significand left) := by
  obtain ⟨same, after⟩ := prolonged.digits ends
  unfold behindPoint
  rw [same]
  split
  · exact carries_error _ _
  · exact carries_behindDigits ends after

theorem carries_behindWhole (ends : EndsNumber behind) {left : Nat}
    (prolonged : Prolonged behind size short long) :
    Carries behind size (short.behindWhole negative significand left)
      (long.behindWhole negative significand left) := by
  have point : long.rest.head? = some '.' ↔ short.rest.head? = some '.' := by
    cases here : short.rest with
    | nil =>
      rw [prolonged.1, here, List.nil_append]
      exact ⟨fun pointed => ((ends _ pointed).2.1 rfl).elim, nofun⟩
    | cons character rest => rw [prolonged.head? here, here]
  rw [behindWhole_eq, behindWhole_eq, prolonged.atExponent ends]
  by_cases pointed : short.rest.head? = some '.'
  · obtain ⟨rest, here⟩ := List.head?_eq_some_iff.mp pointed
    rw [if_pos pointed, if_pos (point.mpr pointed)]
    exact carries_behindPoint ends (prolonged.skip here)
  rw [if_neg pointed, if_neg (mt point.mp pointed)]
  split
  · rename_i marked
    obtain ⟨mark, rest, here⟩ := exists_cons_of_atExponent marked
    exact carries_exponent ends prolonged here
  split
  · exact carries_ok _ prolonged
  · exact carries_real prolonged

/-- A number is read as it is in a text that ends behind it. -/
theorem carries_number (ends : EndsNumber behind) (prolonged : Prolonged behind size short long) :
    Carries behind size (short.number negative) (long.number negative) := by
  cases here : short.rest with
  | nil =>
    unfold number
    rw [here]
    exact carries_error _ _
  | cons first next =>
    have there : long.rest = first :: (next ++ behind) := by
      rw [prolonged.1, here]
      rfl
    cases digit : first.isDigit with
    | false =>
      unfold number
      rw [here]
      dsimp only
      rw [if_pos (by simp [digit])]
      exact carries_error _ _
    | true =>
      have same : (next ++ behind).head?.any Char.isDigit = next.head?.any Char.isDigit := by
        cases next with
        | nil =>
          cases behind with
          | nil => rfl
          | cons character rest => exact (ends character rfl).1
        | cons character rest => rfl
      by_cases alone : (decide (first = '0') && next.head?.any Char.isDigit) = true
      · unfold number
        rw [here]
        dsimp only
        rw [if_neg (by simp [digit]), if_pos alone]
        exact carries_error _ _
      · obtain ⟨digits, after⟩ := prolonged.digits ends
        rw [number_eq here digit alone, number_eq there digit (by rwa [same]), digits]
        exact carries_behindWhole ends after

/-- A value that is a number begins with a digit or with a sign. -/
theorem exists_of_value_number {fuel : Nat} {written : Number} {after : Cursor}
    (done : cursor.value fuel = .ok (.number written, after)) :
    ∃ first more, cursor.skipBlanks.rest = first :: more ∧
      ((first.isDigit = true ∧ cursor.skipBlanks.number false = .ok (written, after)) ∨
        (first = '-' ∧ cursor.skipBlanks.skip.number true = .ok (written, after))) := by
  cases fuel with
  | zero => cases done
  | succ fuel =>
    unfold value at done
    dsimp only at done
    split at done
    case h_1 => cases done
    case h_5 tail here =>
      obtain ⟨⟨found, next⟩, read, same⟩ := map_eq_ok.mp done
      cases same
      exact ⟨'-', tail, here, .inr ⟨rfl, read⟩⟩
    case h_9 first tail _ _ _ _ _ _ _ here =>
      split at done
      · rename_i digit
        obtain ⟨⟨found, next⟩, read, same⟩ := map_eq_ok.mp done
        cases same
        exact ⟨first, tail, here, .inl ⟨digit, read⟩⟩
      · cases done
    all_goals
      obtain ⟨found, -, same⟩ := map_eq_ok.mp done
      cases same

/-- A value that is a number is read with something behind it as well, and with any fuel. -/
theorem value_of_value_number {fuel : Nat} {written : Number} {after : Cursor}
    (done : short.value fuel = .ok (.number written, after)) (ends : EndsNumber behind)
    (prolonged : Prolonged behind size short.skipBlanks long.skipBlanks) (other : Nat) :
    ∃ next, long.value (other + 1) = .ok (.number written, next) ∧
      Prolonged behind size after next := by
  obtain ⟨first, more, here, ⟨digit, read⟩ | ⟨rfl, read⟩⟩ := exists_of_value_number done
  · obtain ⟨next, found, carried⟩ := carries_number ends prolonged written after read
    have there : long.skipBlanks.rest = first :: (more ++ behind) := by
      rw [prolonged.1, here]
      rfl
    refine ⟨next, ?_, carried⟩
    rw [value_of_digit other there digit, found]
    rfl
  · obtain ⟨next, found, carried⟩ := carries_number ends (prolonged.skip here) written after read
    have there : long.skipBlanks.rest = '-' :: (more ++ behind) := by
      rw [prolonged.1, here]
      rfl
    refine ⟨next, ?_, carried⟩
    rw [value_of_minus other there, found]
    rfl

end Prolonged

end Cursor

/-! ### Numbers that are read back -/

/-- The text of a number alone is read as the number. -/
def Number.ReadsBack (number : Number) : Prop :=
  Value.ofText number.toText = .ok (.number number)

/-- Whether a reading ended with a number. -/
def readsNumber (run : Except Fault Value) (number : Number) : Bool :=
  match run with
  | .ok (.number found) => found = number
  | _ => false

theorem readsNumber_eq_true (run : Except Fault Value) (number : Number) :
    readsNumber run number = true ↔ run = .ok (.number number) := by
  unfold readsNumber
  split <;> simp_all

instance (run : Except Fault Value) (number : Number) : Decidable (run = .ok (.number number)) :=
  decidable_of_iff _ (readsNumber_eq_true run number)

/-- What is read from a whole text, and that nothing but blanks is left. -/
theorem Value.ofText_eq_ok {text : String} {value : Value} (done : ofText text = .ok value) :
    ∃ fuel after, (Cursor.ofText text).value fuel = .ok (value, after) ∧
      after.rest.dropWhile Cursor.isBlank = [] := by
  simp only [ofText, bind_eq_ok, pure_eq_ok] at done
  obtain ⟨⟨read, after⟩, found, _, finished, rfl⟩ := done
  refine ⟨_, after, found, ?_⟩
  unfold Cursor.finish at finished
  dsimp only at finished
  split at finished
  · rename_i empty
    rw [← Cursor.rest_skipWhile]
    exact List.isEmpty_iff.mp empty
  · cases finished

/-- A text with nothing but blanks behind its value is read as the value. -/
theorem Value.ofText_of_value {text : String} {value : Value} {after : Cursor}
    (read : (Cursor.ofText text).value (2 * (Cursor.ofText text).size + 2) = .ok (value, after))
    (blank : after.rest.dropWhile Cursor.isBlank = []) : ofText text = .ok value := by
  have finished : after.finish = .ok () := by
    unfold Cursor.finish
    dsimp only
    rw [Cursor.skipBlanks, Cursor.rest_skipWhile, blank]
    rfl
  simp only [ofText, bind_eq_ok, pure_eq_ok]
  exact ⟨(value, after), read, (), finished, rfl⟩

theorem isBlank_of_isDigit {digit : Char} (isDigit : digit.isDigit = true) :
    Cursor.isBlank digit = false := by
  refine Bool.eq_false_iff.mpr fun blank => ?_
  simp only [Cursor.isBlank, Bool.or_eq_true, decide_eq_true_eq] at blank
  rcases blank with ((rfl | rfl) | rfl) | rfl <;> cases isDigit

/-- The text of an integer begins with a digit or a sign. -/
theorem exists_cons_toString (written : Int) : ∃ first more,
    (toString written).toList = first :: more ∧ Cursor.isBlank first = false := by
  cases written with
  | ofNat magnitude =>
    obtain ⟨first, more, shown, digit⟩ := Cursor.exists_cons_toDigits magnitude
    exact ⟨first, more, Nat.toList_repr.trans shown, isBlank_of_isDigit digit⟩
  | negSucc magnitude =>
    have spelled : toString (Int.negSucc magnitude) = "-" ++ (magnitude + 1).repr := rfl
    rw [spelled, String.toList_append]
    exact ⟨'-', (magnitude + 1).repr.toList, rfl, rfl⟩

/-- Every integer of 64 bits is read back. -/
theorem Number.readsBack_integer {written : Int} (low : -(Nat.pow 2 63 : Int) ≤ written)
    (high : written < (UInt64.size : Int)) : (Number.integer written).ReadsBack := by
  obtain ⟨first, more, shown, solid⟩ := exists_cons_toString written
  have here : (Cursor.ofText (toString written)).skipBlanks.rest =
      (toString written).toList ++ [] := by
    rw [Cursor.skipBlanks, Cursor.rest_skipWhile, List.append_nil]
    show (toString written).toList.dropWhile Cursor.isBlank = _
    rw [shown, List.dropWhile_cons_of_neg (by simp [solid])]
  obtain ⟨next, nextRest, -, read⟩ := Cursor.value_integer low high Cursor.endsNumber_nil
    (2 * (Cursor.ofText (toString written)).size + 1) here
  exact Value.ofText_of_value read (by rw [nextRest]; rfl)

/-- A number that is read back alone is read back wherever it ends. -/
theorem Number.ReadsBack.value {number : Number} (readsBack : number.ReadsBack)
    {cursor : Cursor} {behind : List Char} (ends : Cursor.EndsNumber behind) (fuel : Nat)
    (here : cursor.rest.dropWhile Cursor.isBlank =
      (number.toText.toList ++ behind).dropWhile Cursor.isBlank) :
    ∃ next : Cursor, cursor.value (fuel + 1) = .ok (.number number, next) ∧
      next.rest.dropWhile Cursor.isBlank = behind.dropWhile Cursor.isBlank ∧
      next.size = cursor.size := by
  obtain ⟨enough, after, done, blank⟩ := Value.ofText_eq_ok readsBack
  obtain ⟨first, more, begins, -⟩ := Cursor.exists_of_value_number done
  have start : (Cursor.ofText number.toText).skipBlanks.rest =
      number.toText.toList.dropWhile Cursor.isBlank := Cursor.rest_skipWhile _ _
  have solid : number.toText.toList.dropWhile Cursor.isBlank ≠ [] := by
    rw [← start, begins]
    exact List.cons_ne_nil first more
  have prolonged : Cursor.Prolonged behind cursor.size (Cursor.ofText number.toText).skipBlanks
      cursor.skipBlanks := by
    refine ⟨?_, Cursor.size_skipWhile _ _⟩
    rw [start, Cursor.skipBlanks, Cursor.rest_skipWhile, here, List.dropWhile_append]
    rw [if_neg (by simpa using solid)]
  obtain ⟨next, found, carried⟩ := Cursor.value_of_value_number done ends prolonged fuel
  refine ⟨next, found, ?_, carried.2⟩
  rw [carried.1, List.dropWhile_append, blank]
  rfl

end SqlImage.Json
