/-
This file holds the binary floating-point numbers of 64 bits. A number is its bit
pattern, so that two numbers are one exactly when their bits agree; comparison by
value, where the two zeros are equal and nothing equals what is not a number, is
a function beside it. A decimal is turned into the nearest number, in exact
arithmetic, and of two equally near ones into the even one.
-/

namespace SqlImage

/-- A 64-bit binary floating-point number, as its bits. -/
structure Double where
  bits : UInt64
deriving DecidableEq, Repr, Inhabited

namespace Double

/-! ### The parts of a number -/

/-- Whether the sign bit is set. -/
def isNegative (number : Double) : Bool := number.bits.toNat / Nat.pow 2 63 = 1

/-- The biased exponent. -/
def exponentField (number : Double) : Nat := number.bits.toNat / Nat.pow 2 52 % Nat.pow 2 11

/-- The fraction without the leading one of a normal number. -/
def fractionField (number : Double) : Nat := number.bits.toNat % Nat.pow 2 52

/-- Whether the number is neither infinite nor no number at all. -/
def isFinite (number : Double) : Bool := number.exponentField ≠ 2047

/-- Whether the bits stand for no number. -/
def isNaN (number : Double) : Bool := number.exponentField = 2047 ∧ number.fractionField ≠ 0

/-- Whether the number is one of the two zeros. -/
def isZero (number : Double) : Bool := number.bits.toNat % Nat.pow 2 63 = 0

/-- The significand of a finite number, whose magnitude is this times two to the
`exponent`. -/
def significand (number : Double) : Nat :=
  if number.exponentField = 0 then number.fractionField else number.fractionField + Nat.pow 2 52

/-- The power of two by which the significand counts. -/
def exponent (number : Double) : Int :=
  (max number.exponentField 1 : Nat) - 1075

/-- The magnitude of a finite number as a quotient. -/
def magnitudeQuotient (number : Double) : Nat × Nat :=
  match number.exponent with
  | .ofNat power => (number.significand * Nat.pow 2 power, 1)
  | .negSucc power => (number.significand, Nat.pow 2 (power + 1))

/-- Equality by value. -/
def same (first second : Double) : Bool :=
  if first.isNaN || second.isNaN then false
  else first.bits = second.bits || (first.isZero && second.isZero)

/-- Positive zero. -/
def zero : Double := ⟨0⟩

/-- The number with these bits below the sign. -/
def ofMagnitude (negative : Bool) (magnitude : Nat) : Double :=
  ⟨UInt64.ofNat (magnitude + if negative then Nat.pow 2 63 else 0)⟩

/-- The bits of infinity below the sign. -/
def infinityBits : Nat := 2047 * Nat.pow 2 52

/-! ### From a decimal to the nearest number -/

/-- A quotient rounded to the nearest integer, a half to the even one. -/
def roundDiv (numerator denominator : Nat) : Nat :=
  let quotient := numerator / denominator
  let remainder := numerator % denominator
  if 2 * remainder < denominator then quotient
  else if denominator < 2 * remainder then quotient + 1
  else quotient + quotient % 2

/-- A positive quotient measured in units of two to the `scale`. -/
def scaled (numerator denominator : Nat) (scale : Int) : Nat × Nat :=
  match scale with
  | .ofNat power => (numerator, denominator * Nat.pow 2 power)
  | .negSucc power => (numerator * Nat.pow 2 (power + 1), denominator)

/-- The bits of the number nearest to a positive quotient. The unit is chosen so that the
rounded significand has 53 bits, or fewer at the least exponent. With the leading one left in,
the biased exponent counts one less, and a significand that rounds up to 54 bits carries into
it by itself. -/
def nearestBits (numerator denominator : Nat) : Nat :=
  let magnitude : Int := (numerator.log2 : Int) - (denominator.log2 : Int)
  let low : Int := max (-1074) (magnitude - 53)
  let (top, bottom) := scaled numerator denominator low
  let scale := if top / bottom < Nat.pow 2 53 then low else low + 1
  let (top, bottom) := scaled numerator denominator scale
  min infinityBits ((scale + 1074).toNat * Nat.pow 2 52 + roundDiv top bottom)

/-- The magnitude nearest to a quotient. -/
def ofQuotient (numerator denominator : Nat) : Double :=
  if numerator = 0 then zero else ofMagnitude false (nearestBits numerator denominator)

/-- The number with the magnitude of another one and the given sign. -/
def signed (number : Double) (negative : Bool) : Double :=
  ofMagnitude negative (number.bits.toNat % Nat.pow 2 63)

/-- The number nearest to an integer. -/
def ofInt (value : Int) : Double := (ofQuotient value.natAbs 1).signed (value < 0)

/-- The number of decimal digits. -/
def decimalLength (number : Nat) : Nat := (Nat.toDigits 10 number).length

/-- The number nearest to the decimal `digits * 10 ^ power`. Decimals far outside the range are
settled by their order of magnitude alone. -/
def ofDecimal (negative : Bool) (digits : Nat) (power : Int) : Double :=
  if digits = 0 then ofMagnitude negative 0
  else if 400 < power then ofMagnitude negative infinityBits
  else if power + (decimalLength digits : Int) < -400 then ofMagnitude negative 0
  else
    match power with
    | .ofNat power => ofMagnitude negative (nearestBits (digits * Nat.pow 10 power) 1)
    | .negSucc power => ofMagnitude negative (nearestBits digits (Nat.pow 10 (power + 1)))

end Double

end SqlImage
