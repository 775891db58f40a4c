/-
This file says which number a text is: the value of its digits, a fraction counted by
as many tenths of tenths as it has digits, times a power of ten. A text of digits alone
is an integer as far as 64 bits with a sign hold its value, and any other number stands
for the floating-point number nearest to it. Both are what the reading of numbers finds.
-/

import Mathlib.Data.List.TakeWhile
import Mathlib.Tactic.FieldSimp
import SqlImage.Lowering.Leaf
import SqlImage.Proofs.Nearest

namespace SqlImage

/-! ### Numbers as they are written -/

/-- Digits, at least one. -/
def IsDigits (text : List Char) : Prop := text ≠ [] ∧ ∀ digit ∈ text, digit.isDigit = true

theorem isDigits_iff {text : List Char} :
    IsDigits text ↔ (!text.isEmpty && text.all Char.isDigit) = true := by
  rw [IsDigits, Bool.and_eq_true, Bool.not_eq_true', List.isEmpty_eq_false_iff, List.all_eq_true]

instance (text : List Char) : Decidable (IsDigits text) := decidable_of_iff' _ isDigits_iff

/-- The power of ten that stands behind the digits of a number. There may be none. -/
inductive IsExponent : List Char → Int → Prop
  | none : IsExponent [] 0
  | positive {mark : Char} {sign digits : List Char} (marked : mark = 'e' ∨ mark = 'E')
      (signed : sign = [] ∨ sign = ['+']) (written : IsDigits digits) :
      IsExponent (mark :: (sign ++ digits)) (Nat.ofDigitChars 10 digits 0)
  | negative {mark : Char} {digits : List Char} (marked : mark = 'e' ∨ mark = 'E')
      (written : IsDigits digits) :
      IsExponent (mark :: '-' :: digits) (-(Nat.ofDigitChars 10 digits 0 : Int))

/-- A text is a number with a value. Digits stand before a point, behind it or on both sides. -/
inductive IsDecimal : List Char → ℚ → Prop
  | whole {digits exponent : List Char} {power : Int} (written : IsDigits digits)
      (scaled : IsExponent exponent power) :
      IsDecimal (digits ++ exponent) (Nat.ofDigitChars 10 digits 0 * 10 ^ power)
  | point {digits fraction exponent : List Char} {power : Int}
      (written : IsDigits (digits ++ fraction)) (scaled : IsExponent exponent power) :
      IsDecimal (digits ++ '.' :: (fraction ++ exponent))
        ((Nat.ofDigitChars 10 digits 0 +
          Nat.ofDigitChars 10 fraction 0 / 10 ^ fraction.length) * 10 ^ power)

/-- The integer that a text is, if it is one that 64 bits with a sign hold. -/
def integer? (text : List Char) : Option Int :=
  if IsDigits text ∧ Nat.ofDigitChars 10 text 0 < 2 ^ 63 then some (Nat.ofDigitChars 10 text 0)
  else none

/-- A text is a number, and this is the floating-point number nearest to it. -/
def IsFloat (text : List Char) (number : Double) : Prop :=
  ∃ value, IsDecimal text value ∧ number.IsNearest value

open Classical in
/-- The floating-point number that a text stands for, if it is a number. -/
noncomputable def float? (text : List Char) : Option Double :=
  if number : ∃ number, IsFloat text number then some number.choose else none

/-! ### Reading them -/

namespace Decimal

theorem digitsFrom_eq (value : Nat) (digits : List Char) :
    digitsFrom value digits = Nat.ofDigitChars 10 digits value := by
  simp only [digitsFrom, Nat.ofDigitChars, Nat.mul_comm]

theorem digits?_eq_some_iff {text : List Char} {value : Nat} :
    digits? text = some value ↔ IsDigits text ∧ Nat.ofDigitChars 10 text 0 = value := by
  have fails : (text.isEmpty || !text.all Char.isDigit) = true ↔ ¬ IsDigits text := by
    rw [isDigits_iff]
    cases text.isEmpty <;> cases text.all Char.isDigit <;> decide
  by_cases written : IsDigits text
  · rw [digits?, if_neg (fails.not_left.mpr written), digitsFrom_eq, Option.some.injEq]
    exact (and_iff_right written).symm
  · rw [digits?, if_pos (fails.mpr written)]
    exact ⟨nofun, fun both => absurd both.1 written⟩

/-- Digits alone do not begin with a sign. -/
theorem digits?_sign {sign : Char} (noDigit : sign.isDigit = false) (text : List Char) :
    digits? (sign :: text) = none := by
  refine Option.eq_none_iff_forall_ne_some.mpr fun value found => ?_
  have digit := (digits?_eq_some_iff.mp found).1.2 sign List.mem_cons_self
  rw [noDigit] at digit
  cases digit

theorem exponent?_eq_some_iff {text : List Char} {power : Int} :
    exponent? text = some power ↔ IsExponent text power := by
  constructor
  · intro found
    unfold exponent? at found
    split at found
    · cases found
      exact .none
    · split_ifs at found with unmarked
      rename_i mark text
      have marked : mark = 'e' ∨ mark = 'E' := by
        by_contra neither
        exact unmarked (not_or.mp neither)
      split at found
      · rename_i digits
        cases value : digits? digits with
        | none =>
          rw [value] at found
          cases found
        | some _ =>
          rw [value] at found
          cases found
          obtain ⟨written, rfl⟩ := digits?_eq_some_iff.mp value
          exact .negative marked written
      · obtain ⟨_, value, rfl⟩ := Option.map_eq_some_iff.mp found
        obtain ⟨written, rfl⟩ := digits?_eq_some_iff.mp value
        exact IsExponent.positive marked (.inr rfl) written
      · obtain ⟨_, value, rfl⟩ := Option.map_eq_some_iff.mp found
        obtain ⟨written, rfl⟩ := digits?_eq_some_iff.mp value
        exact IsExponent.positive marked (.inl rfl) written
  · have marked {mark : Char} (marked : mark = 'e' ∨ mark = 'E') : ¬ (mark ≠ 'e' ∧ mark ≠ 'E') :=
      not_and_or.mpr (marked.imp not_not.mpr not_not.mpr)
    intro written
    cases written with
    | none => rfl
    | @positive mark sign digits isMark signed written =>
      have value := digits?_eq_some_iff.mpr ⟨written, rfl⟩
      obtain rfl | rfl := signed
      · have unsigned (sign : Char) (noDigit : sign.isDigit = false) (rest : List Char)
            (same : digits = sign :: rest) : False := by
          rw [same, digits?_sign noDigit] at value
          cases value
        rw [List.nil_append, exponent?, if_neg (marked isMark), value]
        · rfl
        · exact unsigned '-' (by decide)
        · exact unsigned '+' (by decide)
      · rw [List.singleton_append, exponent?, if_neg (marked isMark), value]
        rfl
    | @negative mark digits isMark written =>
      have value := digits?_eq_some_iff.mpr ⟨written, rfl⟩
      rw [exponent?, if_neg (marked isMark), value]
      rfl

/-- A power of ten begins with its mark. -/
theorem head_of_isExponent {text : List Char} {power : Int} (written : IsExponent text power)
    (first : Char) (begins : text.head? = some first) : first = 'e' ∨ first = 'E' := by
  cases written with
  | none => cases begins
  | positive marked =>
    cases begins
    exact marked
  | negative marked =>
    cases begins
    exact marked

/-- Digits end where no digit follows. -/
theorem span_digits {digits rest : List Char} (written : ∀ digit ∈ digits, digit.isDigit = true)
    (ends : ∀ first, rest.head? = some first → first.isDigit = false) :
    (digits ++ rest).takeWhile Char.isDigit = digits ∧
      (digits ++ rest).dropWhile Char.isDigit = rest := by
  rw [List.takeWhile_append_of_pos written, List.dropWhile_append_of_pos written]
  cases rest with
  | nil => exact ⟨List.append_nil digits, rfl⟩
  | cons first rest =>
    have stops : ¬ first.isDigit = true := by
      rw [ends first rfl]
      exact Bool.false_ne_true
    rw [List.takeWhile_cons_of_neg stops, List.dropWhile_cons_of_neg stops, List.append_nil]
    exact ⟨rfl, rfl⟩

/-- The decimal with given digits and exponent, if there are any digits and the exponent is one. -/
def ofParts? (digits fraction exponent : List Char) : Option Decimal :=
  if digits.isEmpty && fraction.isEmpty then none
  else (exponent? exponent).map fun power =>
    ⟨digitsFrom (digitsFrom 0 digits) fraction, power - fraction.length⟩

theorem ofParts?_eq_bind (digits fraction exponent : List Char) :
    ofParts? digits fraction exponent =
      if digits.isEmpty && fraction.isEmpty then none
      else (exponent? exponent).bind fun power =>
        some ⟨digitsFrom (digitsFrom 0 digits) fraction, power - fraction.length⟩ := by
  rw [ofParts?, Option.map_eq_bind]
  rfl

theorem ofText?_point {text rest : List Char} (behind : text.dropWhile Char.isDigit = '.' :: rest) :
    ofText? text = ofParts? (text.takeWhile Char.isDigit) (rest.takeWhile Char.isDigit)
      (rest.dropWhile Char.isDigit) := by
  simp only [ofText?, ofParts?_eq_bind, behind]
  rfl

theorem ofText?_whole {text : List Char}
    (noPoint : ∀ rest, text.dropWhile Char.isDigit ≠ '.' :: rest) :
    ofText? text =
      ofParts? (text.takeWhile Char.isDigit) [] (text.dropWhile Char.isDigit) := by
  simp only [ofText?, ofParts?_eq_bind]
  rfl

/-- The value of a decimal. -/
def value (decimal : Decimal) : ℚ := decimal.digits * 10 ^ decimal.power

theorem ofParts?_eq_some_iff {digits fraction exponent : List Char} {decimal : Decimal} :
    ofParts? digits fraction exponent = some decimal ↔
      digits ++ fraction ≠ [] ∧ ∃ power, IsExponent exponent power ∧
        ⟨digitsFrom (digitsFrom 0 digits) fraction, power - fraction.length⟩ = decimal := by
  have fails : (digits.isEmpty && fraction.isEmpty) = true ↔ digits ++ fraction = [] := by
    rw [Bool.and_eq_true, List.isEmpty_iff, List.isEmpty_iff, List.append_eq_nil_iff]
  unfold ofParts?
  split_ifs with none
  · exact ⟨nofun, fun both => absurd (fails.mp none) both.1⟩
  · simp only [Option.map_eq_some_iff, exponent?_eq_some_iff]
    exact (and_iff_right (fails.not.mp none)).symm

/-- A digit of the fraction counts a tenth of the one before it. -/
theorem value_mk (digits fraction : List Char) (power : Int) :
    value ⟨digitsFrom (digitsFrom 0 digits) fraction, power - fraction.length⟩ =
      (Nat.ofDigitChars 10 digits 0 + Nat.ofDigitChars 10 fraction 0 / 10 ^ fraction.length) *
        10 ^ power := by
  have tenths : (10 : ℚ) ^ fraction.length ≠ 0 := by positivity
  rw [value, digitsFrom_eq, digitsFrom_eq, Nat.ofDigitChars_eq_ofDigitChars_zero,
    zpow_sub₀ (by norm_num), zpow_natCast]
  push_cast
  field_simp

theorem isDecimal_of_ofText? {text : List Char} {decimal : Decimal}
    (found : ofText? text = some decimal) : IsDecimal text decimal.value := by
  have parts : text.takeWhile Char.isDigit ++ text.dropWhile Char.isDigit = text :=
    List.takeWhile_append_dropWhile
  have written (text : List Char) : ∀ digit ∈ text.takeWhile Char.isDigit, digit.isDigit = true :=
    fun _ => List.mem_takeWhile_imp
  by_cases point : ∃ rest, text.dropWhile Char.isDigit = '.' :: rest
  · obtain ⟨rest, behind⟩ := point
    rw [ofText?_point behind] at found
    obtain ⟨some, power, scaled, rfl⟩ := ofParts?_eq_some_iff.mp found
    have digits : IsDigits (text.takeWhile Char.isDigit ++ rest.takeWhile Char.isDigit) :=
      ⟨some, fun digit member =>
        (List.mem_append.mp member).elim (written text digit) (written rest digit)⟩
    have decimal := IsDecimal.point digits scaled
    rw [List.takeWhile_append_dropWhile, ← behind, parts] at decimal
    rw [value_mk]
    exact decimal
  · rw [ofText?_whole (not_exists.mp point)] at found
    obtain ⟨some, power, scaled, rfl⟩ := ofParts?_eq_some_iff.mp found
    rw [List.append_nil] at some
    have decimal := IsDecimal.whole ⟨some, written text⟩ scaled
    rw [parts] at decimal
    rw [value_mk, Nat.ofDigitChars_nil, Nat.cast_zero, zero_div, add_zero]
    exact decimal

theorem exists_ofText?_of_isDecimal {text : List Char} {value : ℚ}
    (written : IsDecimal text value) :
    ∃ decimal, ofText? text = some decimal ∧ decimal.value = value := by
  have ends {text : List Char} {power : Int} (scaled : IsExponent text power) (first : Char)
      (begins : text.head? = some first) : first.isDigit = false := by
    obtain rfl | rfl := head_of_isExponent scaled first begins <;> decide
  cases written with
  | @whole digits exponent power written scaled =>
    obtain ⟨taken, left⟩ := span_digits written.2 (ends scaled)
    have noPoint (rest : List Char) : exponent ≠ '.' :: rest := by
      rintro rfl
      simpa using head_of_isExponent scaled '.' rfl
    have some : digits ++ [] ≠ [] := by
      rw [List.append_nil]
      exact written.1
    refine ⟨_, ?_, value_mk digits [] power |>.trans ?_⟩
    · rw [ofText?_whole (left.symm ▸ noPoint), taken, left]
      exact ofParts?_eq_some_iff.mpr ⟨some, power, scaled, rfl⟩
    · rw [Nat.ofDigitChars_nil, Nat.cast_zero, zero_div, add_zero]
  | @point digits fraction exponent power written scaled =>
    have stops (first : Char) (begins : ('.' :: (fraction ++ exponent)).head? = some first) :
        first.isDigit = false := by
      cases begins
      decide
    obtain ⟨taken, left⟩ := span_digits
      (fun digit member => written.2 digit (List.mem_append_left _ member)) stops
    obtain ⟨fractionTaken, fractionLeft⟩ := span_digits
      (fun digit member => written.2 digit (List.mem_append_right _ member)) (ends scaled)
    refine ⟨_, ?_, value_mk digits fraction power⟩
    rw [ofText?_point left, taken, fractionTaken, fractionLeft]
    exact ofParts?_eq_some_iff.mpr ⟨written.1, power, scaled, rfl⟩

end Decimal

/-! ### What is read is what is written -/

theorem isFloat_iff {text : List Char} {number : Double} :
    IsFloat text number ↔ ∃ decimal, Decimal.ofText? text = some decimal ∧
      Double.ofDecimal false decimal.digits decimal.power = number := by
  constructor
  · rintro ⟨value, written, nearest⟩
    obtain ⟨decimal, found, rfl⟩ := Decimal.exists_ofText?_of_isDecimal written
    exact ⟨decimal, found, (Double.isNearest_ofDecimal _ _).unique nearest⟩
  · rintro ⟨decimal, found, rfl⟩
    exact ⟨_, Decimal.isDecimal_of_ofText? found, Double.isNearest_ofDecimal _ _⟩

/-- A number is read as the floating-point number that it stands for. -/
theorem float?_eq (text : List Char) :
    float? text = (Decimal.ofText? text).map
      fun decimal => .ofDecimal false decimal.digits decimal.power := by
  unfold float?
  split_ifs with number
  · obtain ⟨decimal, found, same⟩ := isFloat_iff.mp number.choose_spec
    rw [found, ← same]
    rfl
  · cases found : Decimal.ofText? text with
    | none => rfl
    | some decimal => exact absurd ⟨_, isFloat_iff.mpr ⟨decimal, found, rfl⟩⟩ number

/-- Digits are read as the integer that they are. -/
theorem integer?_toList (digits : String) :
    integer? digits.toList = (Lowering.smallInteger? digits).map Int64.toInt := by
  by_cases written : IsDigits digits.toList
  · obtain ⟨value, valueIs⟩ : ∃ value, Nat.ofDigitChars 10 digits.toList 0 = value := ⟨_, rfl⟩
    have fits : Int.ofNat value ≤ Int64.maxValue.toInt ↔ value < 2 ^ 63 := by
      rw [show Int64.maxValue.toInt = 2 ^ 63 - 1 from by decide, Int.ofNat_eq_natCast]
      omega
    have read : Lowering.smallInteger? digits =
        if Int.ofNat value ≤ Int64.maxValue.toInt then some (Int64.ofNat value) else none := by
      rw [Lowering.smallInteger?, Decimal.digits?_eq_some_iff.mpr ⟨written, valueIs⟩]
      rfl
    rw [read, integer?, valueIs]
    by_cases small : value < 2 ^ 63
    · rw [if_pos ⟨written, small⟩, if_pos (fits.mpr small), Option.map_some,
        Int64.toInt_ofNat_of_lt small]
    · rw [if_neg fun both => small both.2, if_neg (fits.not.mpr small), Option.map_none]
  · have unread : Decimal.digits? digits.toList = none := by
      refine Option.eq_none_iff_forall_ne_some.mpr fun value found => ?_
      exact written (Decimal.digits?_eq_some_iff.mp found).1
    rw [integer?, if_neg fun both => written both.1, Lowering.smallInteger?, unread]
    rfl

end SqlImage
