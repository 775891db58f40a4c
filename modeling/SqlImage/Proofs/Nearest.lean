/-
This file says which floating-point number lies nearest to a value, without computing
one, and proves that a decimal is turned into that number. The bits below the sign are
counted in units of the least magnitude. They grow with the bits, so to be nearest is
to lie on the right side of the midpoint to every other number, and of two numbers
equally near only one has even bits. Infinity takes the place of the number that would
follow the greatest one: what reaches the midpoint to it is too large for any other.
-/

import Mathlib.Algebra.Order.Field.Power
import Mathlib.Tactic.Linarith
import Mathlib.Tactic.Positivity
import Mathlib.Tactic.Ring
import SqlImage.Number.Double

namespace SqlImage.Double

/-! ### The nearest number -/

/-- The magnitude that bits below the sign stand for, in units of two to the power -1074. Bits
without an exponent are a fraction; otherwise the fraction has a one in front of it, and the
exponent tells how often it is doubled. -/
def units (bits : Nat) : Nat :=
  if bits / 2 ^ 52 = 0 then bits else (2 ^ 52 + bits % 2 ^ 52) * 2 ^ (bits / 2 ^ 52 - 1)

/-- The magnitude that bits below the sign stand for. -/
def size (bits : Nat) : ℚ := units bits / 2 ^ 1074

/-- No number without a sign is nearer to a value, and if another one is as near, the bits are even.
Infinity counts as the power of two that would follow the greatest number. -/
structure IsNearest (value : ℚ) (number : Double) : Prop where
  bounded : number.bits.toNat ≤ 2047 * 2 ^ 52
  nearest : ∀ other ≤ 2047 * 2 ^ 52,
    |value - size number.bits.toNat| ≤ |value - size other|
  even : ∀ other ≤ 2047 * 2 ^ 52, other ≠ number.bits.toNat →
    |value - size number.bits.toNat| = |value - size other| → number.bits.toNat % 2 = 0

/-! ### Magnitudes by their bits -/

/-- The bits of a magnitude by its place, which says what a unit counts there, and its count. -/
theorem units_add {place count : Nat} (large : place = 0 ∨ 2 ^ 52 ≤ count)
    (small : count ≤ 2 ^ 53) : units (place * 2 ^ 52 + count) = count * 2 ^ place := by
  by_cases below : count < 2 ^ 52
  · obtain rfl : place = 0 := by omega
    have noExponent : (0 * 2 ^ 52 + count) / 2 ^ 52 = 0 := by omega
    rw [units, if_pos noExponent]
    omega
  · obtain ⟨more, rfl⟩ := Nat.exists_eq_add_of_le (Nat.le_of_not_lt below)
    by_cases carries : more = 2 ^ 52
    · subst carries
      have exponent : (place * 2 ^ 52 + (2 ^ 52 + 2 ^ 52)) / 2 ^ 52 = place + 1 + 1 := by omega
      have fraction : (place * 2 ^ 52 + (2 ^ 52 + 2 ^ 52)) % 2 ^ 52 = 0 := by omega
      rw [units, exponent, fraction, if_neg (Nat.succ_ne_zero _), Nat.add_sub_cancel, Nat.add_zero,
        Nat.pow_succ 2 place, ← Nat.two_mul (2 ^ 52)]
      ring
    · have exponent : (place * 2 ^ 52 + (2 ^ 52 + more)) / 2 ^ 52 = place + 1 := by omega
      have fraction : (place * 2 ^ 52 + (2 ^ 52 + more)) % 2 ^ 52 = more := by omega
      rw [units, exponent, fraction, if_neg (Nat.succ_ne_zero place), Nat.add_sub_cancel]

/-- All bits are at a place, with a count there. -/
theorem exists_place (bits : Nat) : ∃ place count, (place = 0 ∨ 2 ^ 52 ≤ count) ∧
    count < 2 ^ 53 ∧ bits = place * 2 ^ 52 + count := by
  by_cases noExponent : bits / 2 ^ 52 = 0
  · exact ⟨0, bits, .inl rfl, by omega, by omega⟩
  · exact ⟨bits / 2 ^ 52 - 1, 2 ^ 52 + bits % 2 ^ 52, .inr (by omega), by omega, by omega⟩

theorem units_strictMono : StrictMono units := by
  refine strictMono_nat_of_lt_succ fun bits => ?_
  obtain ⟨place, count, large, small, rfl⟩ := exists_place bits
  rw [Nat.add_assoc, units_add large (by omega), units_add (by omega) (by omega)]
  exact Nat.mul_lt_mul_of_pos_right (by omega) (Nat.two_pow_pos place)

/-! ### Midpoints -/

section Midpoints

variable {value : ℚ} {low high : Nat}

theorem size_lt_size (ordered : low < high) : size low < size high := by
  have grows : (units low : ℚ) < units high := Nat.cast_lt.mpr (units_strictMono ordered)
  unfold size
  gcongr

theorem two_mul_le_iff :
    2 * value ≤ size low + size high ↔ 2 * (value * 2 ^ 1074) ≤ units low + units high := by
  rw [size, size, ← add_div, le_div_iff₀ (by positivity), mul_assoc]

theorem le_two_mul_iff :
    size low + size high ≤ 2 * value ↔ units low + units high ≤ 2 * (value * 2 ^ 1074) := by
  rw [size, size, ← add_div, div_le_iff₀ (by positivity), mul_assoc]

/-- The lower of two numbers is as near as the upper one up to the midpoint. -/
theorem nearer_low_iff (ordered : low < high) :
    |value - size low| ≤ |value - size high| ↔
      2 * (value * 2 ^ 1074) ≤ units low + units high := by
  have grows := size_lt_size ordered
  rw [← two_mul_le_iff, ← sq_le_sq]
  constructor <;> intro bound <;> nlinarith

/-- The upper of two numbers is as near as the lower one from the midpoint on. -/
theorem nearer_high_iff (ordered : low < high) :
    |value - size high| ≤ |value - size low| ↔
      units low + units high ≤ 2 * (value * 2 ^ 1074) := by
  have grows := size_lt_size ordered
  rw [← le_two_mul_iff, ← sq_le_sq]
  constructor <;> intro bound <;> nlinarith

end Midpoints

/-- Only one number is nearest: two of them would have even bits and lie next to each other. -/
theorem IsNearest.unique {value : ℚ} {first second : Double} (one : IsNearest value first)
    (other : IsNearest value second) : first = second := by
  have least {first second : Double} (one : IsNearest value first)
      (other : IsNearest value second) : ¬ first.bits.toNat < second.bits.toNat := by
    intro ordered
    have same := le_antisymm (one.nearest _ other.bounded) (other.nearest _ one.bounded)
    have firstEven := one.even _ other.bounded ordered.ne' same
    have secondEven := other.even _ one.bounded ordered.ne same.symm
    have between : first.bits.toNat + 1 < second.bits.toNat := by omega
    have bounded : first.bits.toNat + 1 ≤ 2047 * 2 ^ 52 := by
      have := other.bounded
      omega
    have lower := (nearer_low_iff (Nat.lt_succ_self _)).mp (one.nearest _ bounded)
    have upper := (nearer_high_iff ordered).mp same.ge
    have grows : (units (first.bits.toNat + 1) : ℚ) < units second.bits.toNat :=
      Nat.cast_lt.mpr (units_strictMono between)
    exact (le_of_add_le_add_left (upper.trans lower)).not_gt grows
  have same : first.bits.toNat = second.bits.toNat :=
    Nat.le_antisymm (Nat.le_of_not_lt (least other one)) (Nat.le_of_not_lt (least one other))
  exact congrArg Double.mk (UInt64.toNat.inj same)

/-! ### Numbers between their midpoints -/

/-- Among the bits up to the last ones, a value that is given in units lies between the midpoints of
its neighbours, or on one of them if the bits are even. -/
structure IsCentral (last : Nat) (value : ℚ) (bits : Nat) : Prop where
  below : ∀ other < bits, (units other + units bits : ℚ) ≤ 2 * value
  above : ∀ other ≤ last, bits < other → 2 * value ≤ units bits + units other
  even : ∀ other ≤ last, other ≠ bits → (units bits + units other : ℚ) = 2 * value → bits % 2 = 0

theorem toNat_ofMagnitude {bits : Nat} (bounded : bits ≤ 2047 * 2 ^ 52) :
    (ofMagnitude false bits).bits.toNat = bits := by
  have small : bits < 2 ^ 64 := by omega
  exact UInt64.toNat_ofNat_of_lt' small

theorem IsCentral.isNearest {value : ℚ} {bits : Nat} (bounded : bits ≤ 2047 * 2 ^ 52)
    (central : IsCentral (2047 * 2 ^ 52) (value * 2 ^ 1074) bits) :
    IsNearest value (ofMagnitude false bits) := by
  refine ⟨?_, ?_, ?_⟩ <;> rw [toNat_ofMagnitude bounded]
  · exact bounded
  · intro other otherBounded
    obtain less | rfl | greater := Nat.lt_trichotomy other bits
    · exact (nearer_high_iff less).mpr (central.below other less)
    · exact le_rfl
    · exact (nearer_low_iff greater).mpr (central.above other otherBounded greater)
  · intro other otherBounded distinct same
    refine central.even other otherBounded distinct ?_
    obtain less | greater := Nat.lt_or_gt_of_ne distinct
    · rw [add_comm]
      exact le_antisymm ((nearer_high_iff less).mp same.le) ((nearer_low_iff less).mp same.ge)
    · exact le_antisymm ((nearer_high_iff greater).mp same.ge) ((nearer_low_iff greater).mp same.le)

/-- What reaches the midpoint below infinity is nearest to infinity. -/
theorem isNearest_infinity {value : ℚ}
    (large : ∀ other < 2047 * 2 ^ 52,
      (units other + units (2047 * 2 ^ 52) : ℚ) ≤ 2 * (value * 2 ^ 1074)) :
    IsNearest value (ofMagnitude false infinityBits) :=
  IsCentral.isNearest le_rfl
    ⟨large, fun _ bounded greater => absurd bounded greater.not_ge, fun _ _ _ _ => rfl⟩

/-- Bits beyond infinity are cut to it. -/
theorem isNearest_min {value : ℚ} {bits : Nat}
    (central : ∀ last, IsCentral last (value * 2 ^ 1074) bits) :
    IsNearest value (ofMagnitude false (min infinityBits bits)) := by
  obtain finite | beyond : bits ≤ infinityBits ∨ infinityBits < bits := le_or_gt bits _
  · rw [Nat.min_eq_right finite]
    exact (central _).isNearest finite
  · rw [Nat.min_eq_left beyond.le]
    refine isNearest_infinity fun other less => ?_
    have grows : (units (2047 * 2 ^ 52) : ℚ) ≤ units bits :=
      Nat.cast_le.mpr (units_strictMono beyond).le
    exact (add_le_add_right grows _).trans ((central bits).below other (less.trans beyond))

/-! ### Counts at a place -/

/-- A count is nearest to a quotient, and even if the next one is as near. -/
structure IsRounded (quotient : ℚ) (count : Nat) : Prop where
  lower : 2 * count - 1 ≤ 2 * quotient
  upper : 2 * quotient ≤ 2 * count + 1
  even : 2 * count - 1 = 2 * quotient ∨ 2 * quotient = 2 * count + 1 → count % 2 = 0

section Place

variable {place count : Nat}

theorem units_le_of_lt (large : place = 0 ∨ 2 ^ 52 < count) (small : count ≤ 2 ^ 53) {other : Nat}
    (less : other < place * 2 ^ 52 + count) :
    (units other : ℚ) ≤ (count - 1) * 2 ^ place := by
  obtain _ | count := count
  · omega
  · have bound := units_strictMono.monotone (show other ≤ place * 2 ^ 52 + count by omega)
    rw [units_add (by omega) (by omega)] at bound
    push_cast
    rw [add_sub_cancel_right]
    exact_mod_cast bound

theorem le_units_of_gt (large : place = 0 ∨ 2 ^ 52 ≤ count) (small : count ≤ 2 ^ 53) {other : Nat}
    (greater : place * 2 ^ 52 + count < other) :
    ((count + 1) * 2 ^ place : ℚ) ≤ units other := by
  have bound := units_strictMono.monotone (Nat.succ_le_of_lt greater)
  suffices (count + 1) * 2 ^ place ≤ units (place * 2 ^ 52 + count + 1) by
    exact_mod_cast this.trans bound
  by_cases carries : count = 2 ^ 53
  · -- The next place begins here, and counts twice as much.
    have next : place * 2 ^ 52 + count + 1 = (place + 1) * 2 ^ 52 + (2 ^ 52 + 1) := by omega
    rw [next, units_add (.inr (by omega)) (by omega), carries, Nat.pow_succ 2 place]
    nlinarith [Nat.two_pow_pos place]
  · rw [Nat.add_assoc, units_add (by omega) (by omega)]

/-! A quotient is counted at a place with 53 bits, or with fewer at the least one. -/

variable {quotient : ℚ} (rounded : IsRounded quotient count) (small : quotient < 2 ^ 53)
  (large : place = 0 ∨ 2 ^ 52 ≤ quotient)

include rounded

include small in
theorem IsRounded.count_le : count ≤ 2 ^ 53 := by
  have bound : (2 * count : ℚ) < 2 ^ 54 + 1 := by linarith [rounded.lower]
  have bound : 2 * count < 2 ^ 54 + 1 := by exact_mod_cast bound
  omega

include large in
theorem IsRounded.le_count : place = 0 ∨ 2 ^ 52 ≤ count := by
  refine large.imp_right fun large => ?_
  have bound : (2 ^ 53 : ℚ) ≤ 2 * count + 1 := by linarith [rounded.upper]
  have bound : 2 ^ 53 ≤ 2 * count + 1 := by exact_mod_cast bound
  omega

include small large

theorem IsRounded.units_eq : (units (place * 2 ^ 52 + count) : ℚ) = count * 2 ^ place := by
  rw [units_add (rounded.le_count large) (rounded.count_le small)]
  push_cast
  rfl

/-- Numbers below a count lie a whole unit away from it, unless the count is the least one. Then
they may lie nearer, but the quotient does not lie below the count. -/
theorem IsRounded.below {other : Nat} (less : other < place * 2 ^ 52 + count) :
    (units other + count * 2 ^ place : ℚ) < 2 * (quotient * 2 ^ place) ∨
      (units other + count * 2 ^ place : ℚ) ≤ (2 * count - 1) * 2 ^ place := by
  by_cases reached : (count : ℚ) ≤ quotient
  · left
    have grows : (units other : ℚ) < count * 2 ^ place := by
      rw [← rounded.units_eq small large]
      exact Nat.cast_lt.mpr (units_strictMono less)
    have bound : (count * 2 ^ place : ℚ) ≤ quotient * 2 ^ place := by gcongr
    linarith
  · right
    have more : place = 0 ∨ 2 ^ 52 < count := by
      refine large.imp_right fun large => ?_
      have bound : (2 ^ 52 : ℚ) < count := by linarith
      exact_mod_cast bound
    linarith [units_le_of_lt more (rounded.count_le small) less]

theorem IsRounded.above {other : Nat} (greater : place * 2 ^ 52 + count < other) :
    ((2 * count + 1) * 2 ^ place : ℚ) ≤ count * 2 ^ place + units other := by
  linarith [le_units_of_gt (rounded.le_count large) (rounded.count_le small) greater]

theorem IsRounded.isCentral (last : Nat) :
    IsCentral last (quotient * 2 ^ place) (place * 2 ^ 52 + count) := by
  have unit : (2 ^ place : ℚ) ≠ 0 := by positivity
  have lower : ((2 * count - 1) * 2 ^ place : ℚ) ≤ 2 * (quotient * 2 ^ place) := by
    rw [← mul_assoc]
    exact mul_le_mul_of_nonneg_right rounded.lower (by positivity)
  have upper : (2 * (quotient * 2 ^ place) : ℚ) ≤ (2 * count + 1) * 2 ^ place := by
    rw [← mul_assoc]
    exact mul_le_mul_of_nonneg_right rounded.upper (by positivity)
  have here := rounded.units_eq small large
  refine ⟨fun other less => ?_, fun other _ greater => ?_, fun other _ distinct same => ?_⟩
  · rw [here]
    exact (rounded.below small large less).elim le_of_lt fun bound => bound.trans lower
  · rw [here]
    exact upper.trans (rounded.above small large greater)
  · suffices count % 2 = 0 by omega
    rw [here] at same
    obtain less | greater := Nat.lt_or_gt_of_ne distinct
    · -- The midpoint below is reached, so the quotient is a half less than the count.
      rw [add_comm] at same
      have least := (rounded.below small large less).elim (absurd same ·.ne) same.ge.trans
      rw [← mul_assoc] at least lower
      exact rounded.even (.inl (mul_right_cancel₀ unit (le_antisymm lower least)))
    · have most := (rounded.above small large greater).trans same.le
      rw [← mul_assoc] at most upper
      exact rounded.even (.inr (mul_right_cancel₀ unit (le_antisymm upper most)))

end Place

/-! ### Rounding -/

/-- The rounded quotient times the divisor is at most half of the divisor away, and the quotient
is even where it is a half. -/
theorem roundDiv_mul (top : Nat) {bottom : Nat} (positive : 0 < bottom) :
    2 * roundDiv top bottom * bottom ≤ 2 * top + bottom ∧
      2 * top ≤ 2 * roundDiv top bottom * bottom + bottom ∧
      (2 * roundDiv top bottom * bottom = 2 * top + bottom ∨
        2 * top = 2 * roundDiv top bottom * bottom + bottom → roundDiv top bottom % 2 = 0) := by
  have parts := Nat.div_add_mod top bottom
  have rest := Nat.mod_lt top positive
  simp only [roundDiv]
  generalize top / bottom = quotient at *
  generalize top % bottom = remainder at *
  have down : 2 * quotient * bottom = 2 * (bottom * quotient) := by ring
  have up : 2 * (quotient + 1) * bottom = 2 * (bottom * quotient) + 2 * bottom := by ring
  split_ifs with less greater
  · omega
  · omega
  · obtain even | odd := Nat.mod_two_eq_zero_or_one quotient
    · rw [even, Nat.add_zero]
      omega
    · rw [odd]
      omega

theorem isRounded_roundDiv (top : Nat) {bottom : Nat} (positive : 0 < bottom) :
    IsRounded (top / bottom) (roundDiv top bottom) := by
  obtain ⟨lower, upper, even⟩ := roundDiv_mul top positive
  have bottomPositive : (0 : ℚ) < bottom := Nat.cast_pos.mpr positive
  constructor <;> rw [← mul_div_assoc]
  · rw [le_div_iff₀ bottomPositive, sub_mul, one_mul, sub_le_iff_le_add]
    exact_mod_cast lower
  · rw [div_le_iff₀ bottomPositive, add_mul, one_mul]
    exact_mod_cast upper
  · rw [eq_div_iff bottomPositive.ne', div_eq_iff bottomPositive.ne', sub_mul, add_mul, one_mul,
      sub_eq_iff_eq_add]
    exact_mod_cast even

theorem scaled_eq (numerator : Nat) {denominator : Nat} (scale : Int) (positive : 0 < denominator) :
    0 < (scaled numerator denominator scale).2 ∧
      ((scaled numerator denominator scale).1 : ℚ) / (scaled numerator denominator scale).2 =
        numerator / denominator / 2 ^ scale := by
  have denominatorPositive : (0 : ℚ) < denominator := Nat.cast_pos.mpr positive
  cases scale with
  | ofNat power =>
    refine ⟨Nat.mul_pos positive (Nat.two_pow_pos power), ?_⟩
    have cast : ((denominator * Nat.pow 2 power : Nat) : ℚ) = denominator * 2 ^ power := by
      exact_mod_cast rfl
    rw [scaled, cast, Int.ofNat_eq_natCast, zpow_natCast, div_div]
  | negSucc power =>
    refine ⟨positive, ?_⟩
    have cast : ((numerator * Nat.pow 2 (power + 1) : Nat) : ℚ) = numerator * 2 ^ (power + 1) := by
      exact_mod_cast rfl
    rw [scaled, cast, zpow_negSucc, div_inv_eq_mul, mul_div_right_comm]

/-- A quotient lies within two powers of two around the difference of the lengths. -/
theorem quotient_bounds {numerator denominator : Nat} (numeratorPositive : 0 < numerator)
    (denominatorPositive : 0 < denominator) :
    (2 : ℚ) ^ ((numerator.log2 : Int) - denominator.log2 - 1) < numerator / denominator ∧
      (numerator / denominator : ℚ) < 2 ^ ((numerator.log2 : Int) - denominator.log2 + 1) := by
  have castLow {number : Nat} (positive : 0 < number) : (2 : ℚ) ^ (number.log2 : Int) ≤ number := by
    rw [zpow_natCast]
    exact_mod_cast Nat.log2_self_le positive.ne'
  have castHigh (number : Nat) : (number : ℚ) < 2 ^ ((number.log2 : Int) + 1) := by
    rw [← Nat.cast_succ, zpow_natCast]
    exact_mod_cast Nat.lt_log2_self
  have positive : (0 : ℚ) < denominator := Nat.cast_pos.mpr denominatorPositive
  constructor
  · rw [lt_div_iff₀ positive]
    calc (2 : ℚ) ^ ((numerator.log2 : Int) - denominator.log2 - 1) * denominator
        < 2 ^ ((numerator.log2 : Int) - denominator.log2 - 1) *
            2 ^ ((denominator.log2 : Int) + 1) := by
          have := castHigh denominator
          gcongr
      _ = 2 ^ (numerator.log2 : Int) := by
          rw [← zpow_add₀ two_ne_zero]
          congr 1
          ring
      _ ≤ numerator := castLow numeratorPositive
  · rw [div_lt_iff₀ positive]
    calc (numerator : ℚ) < 2 ^ ((numerator.log2 : Int) + 1) := castHigh numerator
      _ = 2 ^ ((numerator.log2 : Int) - denominator.log2 + 1) * 2 ^ (denominator.log2 : Int) := by
          rw [← zpow_add₀ two_ne_zero]
          congr 1
          ring
      _ ≤ 2 ^ ((numerator.log2 : Int) - denominator.log2 + 1) * denominator := by
          have := castLow denominatorPositive
          gcongr

/-- The power of two that a quotient is counted by. -/
def scaleOf (numerator denominator : Nat) : Int :=
  let low : Int := max (-1074) ((numerator.log2 : Int) - (denominator.log2 : Int) - 53)
  let (top, bottom) := scaled numerator denominator low
  if top / bottom < Nat.pow 2 53 then low else low + 1

theorem nearestBits_eq (numerator denominator : Nat) :
    nearestBits numerator denominator =
      min infinityBits ((scaleOf numerator denominator + 1074).toNat * 2 ^ 52 +
        roundDiv (scaled numerator denominator (scaleOf numerator denominator)).1
          (scaled numerator denominator (scaleOf numerator denominator)).2) := rfl

section Quotients

variable {numerator denominator : Nat} (numeratorPositive : 0 < numerator)
  (denominatorPositive : 0 < denominator)

include numeratorPositive denominatorPositive

/-- A quotient is counted by 53 binary digits, or by fewer in the least units. -/
theorem scaleOf_bounds :
    -1074 ≤ scaleOf numerator denominator ∧
      (numerator / denominator / 2 ^ scaleOf numerator denominator : ℚ) < 2 ^ 53 ∧
      (scaleOf numerator denominator = -1074 ∨
        2 ^ 52 ≤ (numerator / denominator / 2 ^ scaleOf numerator denominator : ℚ)) := by
  obtain ⟨lower, upper⟩ := quotient_bounds numeratorPositive denominatorPositive
  generalize magnitudeIs : (numerator.log2 : Int) - denominator.log2 = magnitude at lower upper
  obtain ⟨low, lowIs⟩ : ∃ low, low = max (-1074) (magnitude - 53) := ⟨_, rfl⟩
  obtain ⟨bottomPositive, quotientIs⟩ := scaled_eq numerator low denominatorPositive
  have positive : (0 : ℚ) < 2 ^ low := zpow_pos two_pos low
  have above : (numerator / denominator / 2 ^ low : ℚ) < 2 ^ 54 := by
    rw [div_lt_iff₀ positive, ← zpow_natCast, ← zpow_add₀ two_ne_zero]
    exact upper.trans_le (zpow_le_zpow_right₀ one_le_two (by push_cast; omega))
  have below : low = -1074 ∨ (2 ^ 52 : ℚ) ≤ numerator / denominator / 2 ^ low := by
    refine (max_choice (-1074) (magnitude - 53)).imp lowIs.trans fun chosen => ?_
    rw [le_div_iff₀ positive, ← zpow_natCast, ← zpow_add₀ two_ne_zero]
    exact (zpow_le_zpow_right₀ one_le_two (by push_cast; omega)).trans lower.le
  have fits : (scaled numerator denominator low).1 / (scaled numerator denominator low).2 <
      Nat.pow 2 53 ↔ (numerator / denominator / 2 ^ low : ℚ) < 2 ^ 53 := by
    rw [← quotientIs, div_lt_iff₀ (Nat.cast_pos.mpr bottomPositive),
      Nat.div_lt_iff_lt_mul bottomPositive]
    exact_mod_cast Iff.rfl
  have scaleIs : scaleOf numerator denominator =
      if (numerator / denominator / 2 ^ low : ℚ) < 2 ^ 53 then low else low + 1 := by
    rw [← if_congr fits rfl rfl, lowIs, ← magnitudeIs]
    rfl
  rw [scaleIs]
  split_ifs with small
  · exact ⟨by omega, small, below⟩
  · have halved : (numerator / denominator / 2 ^ (low + 1) : ℚ) =
        numerator / denominator / 2 ^ low / 2 := by
      rw [zpow_add_one₀ two_ne_zero, ← div_div]
    rw [halved]
    exact ⟨by omega, by linarith, .inr (by linarith)⟩

theorem isNearest_nearestBits :
    IsNearest (numerator / denominator)
      (ofMagnitude false (nearestBits numerator denominator)) := by
  obtain ⟨least, small, large⟩ := scaleOf_bounds numeratorPositive denominatorPositive
  rw [nearestBits_eq]
  generalize scaleOf numerator denominator = scale at *
  obtain ⟨bottomPositive, quotientIs⟩ := scaled_eq numerator scale denominatorPositive
  generalize (scaled numerator denominator scale).1 = top at *
  generalize (scaled numerator denominator scale).2 = bottom at *
  have rounded := isRounded_roundDiv top bottomPositive
  rw [quotientIs] at rounded
  refine isNearest_min fun last => ?_
  have scaledIs : (numerator / denominator * 2 ^ 1074 : ℚ) =
      numerator / denominator / 2 ^ scale * 2 ^ (scale + 1074).toNat := by
    rw [← zpow_natCast 2 (scale + 1074).toNat, Int.toNat_of_nonneg (by omega),
      zpow_add₀ two_ne_zero, ← mul_assoc, div_mul_cancel₀ _ (zpow_ne_zero scale two_ne_zero)]
    rfl
  rw [scaledIs]
  exact rounded.isCentral small (large.imp_left fun least => by omega) last

end Quotients

/-! ### Decimals -/

section Decimals

variable {value : ℚ}

/-- What is at most half a unit is nearest to zero. -/
theorem isNearest_zero (small : 2 * (value * 2 ^ 1074) ≤ 1) :
    IsNearest value (ofMagnitude false 0) := by
  refine IsCentral.isNearest (Nat.zero_le _) ⟨fun _ less => absurd less (Nat.not_lt_zero _),
    fun other _ greater => ?_, fun _ _ _ _ => rfl⟩
  have grows : (1 : ℚ) ≤ units other :=
    Nat.one_le_cast.mpr ((Nat.zero_le _).trans_lt (units_strictMono greater))
  exact small.trans (grows.trans (le_add_of_nonneg_left (Nat.cast_nonneg _)))

/-- The last count of a place and the first one of the next place. -/
theorem units_last (place : Nat) :
    (units (place * 2 ^ 52 + (2 ^ 53 - 1)) + units (place * 2 ^ 52 + 2 ^ 53) : ℚ) =
      (2 ^ 54 - 1) * 2 ^ place := by
  rw [units_add (.inr (by decide)) (by decide), units_add (.inr (by decide)) le_rfl]
  push_cast
  ring

/-- Infinity is nearest from the midpoint on between the greatest number and the next power of
two. -/
theorem isNearest_infinity_iff :
    IsNearest value (ofMagnitude false infinityBits) ↔ 2 ^ 1024 - 2 ^ 970 ≤ value := by
  have greatest : 2045 * 2 ^ 52 + (2 ^ 53 - 1) = 2047 * 2 ^ 52 - 1 := by norm_num
  have infinity : 2045 * 2 ^ 52 + 2 ^ 53 = 2047 * 2 ^ 52 := by norm_num
  have midpoint : (units (2047 * 2 ^ 52 - 1) + units (2047 * 2 ^ 52) : ℚ) =
      2 * ((2 ^ 1024 - 2 ^ 970) * 2 ^ 1074) := by
    calc (units (2047 * 2 ^ 52 - 1) + units (2047 * 2 ^ 52) : ℚ)
        = (2 ^ 54 - 1) * 2 ^ 2045 := by rw [← units_last, greatest, infinity]
      _ = 2 * ((2 ^ (54 + 970) - 2 ^ 970) * 2 ^ 1074) := by
          rw [show 2045 = 1 + 970 + 1074 from rfl, pow_add, pow_add, pow_add, pow_one]
          generalize (2 : ℚ) ^ 970 = half
          generalize (2 : ℚ) ^ 1074 = unit
          ring
  constructor
  · intro near
    have bits : (ofMagnitude false infinityBits).bits.toNat = 2047 * 2 ^ 52 :=
      toNat_ofMagnitude le_rfl
    have bound := near.nearest (2047 * 2 ^ 52 - 1) (Nat.sub_le _ _)
    rw [bits] at bound
    have bound := midpoint.symm.trans_le ((nearer_high_iff (by decide)).mp bound)
    exact le_of_mul_le_mul_right (le_of_mul_le_mul_left bound two_pos) (by positivity)
  · intro large
    refine isNearest_infinity fun other less => ?_
    have grows : (units other : ℚ) ≤ units (2047 * 2 ^ 52 - 1) :=
      Nat.cast_le.mpr (units_strictMono.monotone (Nat.le_sub_one_of_lt less))
    calc (units other + units (2047 * 2 ^ 52) : ℚ)
        ≤ units (2047 * 2 ^ 52 - 1) + units (2047 * 2 ^ 52) := by gcongr
      _ = 2 * ((2 ^ 1024 - 2 ^ 970) * 2 ^ 1074) := midpoint
      _ ≤ 2 * (value * 2 ^ 1074) := by gcongr

theorem two_pow_le_ten_pow (power : Nat) : (2 : ℚ) ^ (3 * power) ≤ 10 ^ power := by
  rw [pow_mul]
  gcongr
  norm_num

theorem lt_ten_pow_decimalLength (number : Nat) : number < 10 ^ decimalLength number :=
  (Nat.length_toDigits_le_iff (by decide) Nat.length_toDigits_pos).mp le_rfl

end Decimals

/-- A decimal is turned into the number nearest to it. -/
theorem isNearest_ofDecimal (digits : Nat) (power : Int) :
    IsNearest (digits * 10 ^ power) (ofDecimal false digits power) := by
  unfold ofDecimal
  split_ifs with none large small
  · subst none
    exact isNearest_zero (by simp)
  · refine isNearest_infinity_iff.mpr ?_
    have counted : (1 : ℚ) ≤ digits := Nat.one_le_cast.mpr (Nat.pos_of_ne_zero none)
    calc (2 ^ 1024 - 2 ^ 970 : ℚ) ≤ 2 ^ 1024 := sub_le_self _ (by positivity)
      _ ≤ 2 ^ (3 * 400) := pow_le_pow_right₀ one_le_two (by decide)
      _ ≤ 10 ^ 400 := two_pow_le_ten_pow 400
      _ = 10 ^ (400 : Int) := rfl
      _ ≤ 10 ^ power := zpow_le_zpow_right₀ (by norm_num) large.le
      _ ≤ digits * 10 ^ power := le_mul_of_one_le_left (by positivity) counted
  · refine isNearest_zero ?_
    have counted : (digits : ℚ) ≤ 10 ^ (decimalLength digits : Int) := by
      rw [zpow_natCast]
      exact_mod_cast (lt_ten_pow_decimalLength digits).le
    have tiny : (digits * 10 ^ power : ℚ) ≤ (10 ^ 400)⁻¹ := by
      calc (digits * 10 ^ power : ℚ) ≤ 10 ^ (decimalLength digits : Int) * 10 ^ power := by gcongr
        _ = 10 ^ (power + decimalLength digits) := by
            rw [← zpow_add₀ (by norm_num), add_comm]
        _ ≤ 10 ^ (-400 : Int) := zpow_le_zpow_right₀ (by norm_num) small.le
        _ = (10 ^ 400)⁻¹ := zpow_neg 10 400
    have units : (2 * 2 ^ 1074 : ℚ) ≤ 10 ^ 400 := by
      calc (2 * 2 ^ 1074 : ℚ) = 2 ^ 1075 := (pow_succ' 2 1074).symm
        _ ≤ 2 ^ (3 * 400) := pow_le_pow_right₀ one_le_two (by decide)
        _ ≤ 10 ^ 400 := two_pow_le_ten_pow 400
    calc (2 * (digits * 10 ^ power * 2 ^ 1074) : ℚ) = digits * 10 ^ power * (2 * 2 ^ 1074) :=
          mul_left_comm 2 _ _
      _ ≤ (10 ^ 400)⁻¹ * 10 ^ 400 := by gcongr
      _ = 1 := inv_mul_cancel₀ (by positivity)
  · have positive : 0 < digits := Nat.pos_of_ne_zero none
    cases power with
    | ofNat power =>
      have nearest := isNearest_nearestBits
        (Nat.mul_pos positive (Nat.pow_pos (n := power) (by decide : 0 < 10))) Nat.one_pos
      rw [Int.ofNat_eq_natCast, zpow_natCast]
      rw [Nat.cast_one, div_one, Nat.cast_mul, Nat.cast_pow] at nearest
      exact nearest
    | negSucc power =>
      have nearest := isNearest_nearestBits positive
        (Nat.pow_pos (n := power + 1) (by decide : 0 < 10))
      rw [zpow_negSucc, ← div_eq_mul_inv]
      rw [Nat.cast_pow] at nearest
      exact nearest

end SqlImage.Double
