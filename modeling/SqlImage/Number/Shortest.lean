/-
This file writes a floating-point number with the fewest decimal digits that read
back as the same number. Of several such decimals the nearest is written. The
point is placed among the digits while the number is neither very large nor very
small, and an exponent with its sign is written otherwise.
-/

import SqlImage.Number.Double

namespace SqlImage.Double

/-- A decimal: its digits as one number, and the power of ten by which they count. -/
structure Decimal where
  digits : Nat
  power : Int
deriving DecidableEq, Repr

/-- The number of digits before the decimal point of a positive quotient: the least `count` for
which the quotient is below ten to the `count`. The search goes up from a bound that lies below
every double. -/
def pointFrom (numerator denominator : Nat) : (fuel : Nat) → (count : Int) → Int
  | 0, count => count
  | fuel + 1, count =>
    let below : Bool :=
      match count with
      | .ofNat power => numerator < denominator * Nat.pow 10 power
      | .negSucc power => numerator * Nat.pow 10 (power + 1) < denominator
    if below then count else pointFrom numerator denominator fuel (count + 1)

/-- The place of the decimal point, found from an estimate by the number of binary digits. -/
def pointOf (numerator denominator : Nat) : Int :=
  let binary : Int := (numerator.log2 : Int) - (denominator.log2 : Int)
  pointFrom numerator denominator 8 (binary * 30103 / 100000 - 2)

/-- The decimal with digits of the given power that lies nearest to a quotient among the two
next to it, of those that read back as `magnitude`. A last digit that rounds up to ten is carried
into the power. -/
def nearestOnGrid (magnitude numerator denominator : Nat) (power : Int) : Option Decimal :=
  let (top, bottom) :=
    match power with
    | .ofNat power => (numerator, denominator * Nat.pow 10 power)
    | .negSucc power => (numerator * Nat.pow 10 (power + 1), denominator)
  let below := top / bottom
  let readsBack (digits : Nat) : Bool :=
    ofDecimal false digits power = ofMagnitude false magnitude
  let lowerNearer : Bool :=
    2 * (top % bottom) < bottom || (2 * (top % bottom) = bottom && below % 2 = 0)
  if readsBack below && (lowerNearer || !readsBack (below + 1)) then some ⟨below, power⟩
  else if readsBack (below + 1) then
    if (below + 1) % 10 = 0 then some ⟨(below + 1) / 10, power + 1⟩ else some ⟨below + 1, power⟩
  else none

/-- The first decimal that reads back, tried with `count` digits and more. -/
def shortestFrom (magnitude numerator denominator : Nat) (point : Int) :
    (fuel : Nat) → (count : Nat) → Decimal
  | 0, count => ⟨0, count⟩
  | fuel + 1, count =>
    match nearestOnGrid magnitude numerator denominator (point - (count : Int)) with
    | some decimal => decimal
    | none => shortestFrom magnitude numerator denominator point fuel (count + 1)

/-- The shortest decimal that reads back as the magnitude of a finite number other than zero.
Seventeen digits always suffice. -/
def shortest (number : Double) : Decimal :=
  let (numerator, denominator) := number.magnitudeQuotient
  shortestFrom (number.bits.toNat % Nat.pow 2 63) numerator denominator
    (pointOf numerator denominator) 17 1

/-- The digits of a decimal with its point set: plain with at least one digit on each side of
the point, or with an exponent that always shows its sign. -/
def Decimal.toText (decimal : Decimal) : String :=
  let digits := Nat.toDigits 10 decimal.digits
  let point : Int := digits.length + decimal.power
  if 0 ≤ decimal.power ∧ point ≤ 16 then
    String.ofList (digits ++ List.replicate decimal.power.toNat '0') ++ ".0"
  else if 0 < point ∧ point ≤ 16 then
    String.ofList (digits.take point.toNat ++ '.' :: digits.drop point.toNat)
  else if -5 < point ∧ point ≤ 0 then
    String.ofList ('0' :: '.' :: List.replicate (-point).toNat '0' ++ digits)
  else
    let power := point - 1
    let mark := if power < 0 then "e-" else "e+"
    let fraction := if digits.length = 1 then [] else '.' :: digits.drop 1
    String.ofList (digits.take 1 ++ fraction) ++ mark ++ toString power.natAbs

/-- The text of a finite number. -/
def toText (number : Double) : String :=
  let sign := if number.isNegative then "-" else ""
  if number.isZero then sign ++ "0.0" else sign ++ number.shortest.toText

end SqlImage.Double
