/-
This file turns a significand and a power of ten into a floating-point number in
steps. The significand is rounded first, and then multiplied by a power of ten or
divided by one, with a rounding at every step, so the result may miss the number
nearest to the decimal by its last bits.
-/

import SqlImage.Number.Double

namespace SqlImage.Double

/-- The product of the magnitudes of two finite numbers. -/
def multipliedBy (first second : Double) : Double :=
  let (top, bottom) := first.magnitudeQuotient
  let (otherTop, otherBottom) := second.magnitudeQuotient
  ofQuotient (top * otherTop) (bottom * otherBottom)

/-- The quotient of the magnitudes of two finite numbers, of which the second one is not zero. -/
def dividedBy (first second : Double) : Double :=
  let (top, bottom) := first.magnitudeQuotient
  let (otherTop, otherBottom) := second.magnitudeQuotient
  ofQuotient (top * otherBottom) (bottom * otherTop)

/-- The number nearest to a power of ten. -/
def powerOfTen (power : Nat) : Double := ofDecimal false 1 power

/-- The greatest power of ten below infinity. -/
def greatestPower : Nat := 308

/-- A magnitude times a power of ten, unless that is too large. A power beyond the greatest one is
divided by in several steps; zero stays zero whatever the power. -/
def scaleByTen? (number : Double) (power : Int) : Option Double :=
  if power.natAbs ≤ greatestPower then
    let result :=
      if 0 ≤ power then number.multipliedBy (powerOfTen power.natAbs)
      else number.dividedBy (powerOfTen power.natAbs)
    if result.isFinite then some result else none
  else if number.isZero then some number
  else if 0 ≤ power then none
  else (number.dividedBy (powerOfTen greatestPower)).scaleByTen? (power + greatestPower)
termination_by power.natAbs
decreasing_by
  have : greatestPower = 308 := rfl
  omega

/-- The number with a sign, a significand and a power of ten, unless it is too large. -/
def ofScaled? (negative : Bool) (significand : Nat) (power : Int) : Option Double :=
  ((ofQuotient significand 1).scaleByTen? power).map (·.signed negative)

end SqlImage.Double
