/-
This file reads the numbers of JSON. A number without a fraction or an exponent is
an integer if it fits 64 bits, with a sign or without one. Any other number is a
floating-point number; of its digits only so many count as fit 64 bits, and the
others tell no more than their places.
-/

import SqlImage.Json.Cursor
import SqlImage.Number.Scaling

namespace SqlImage.Json.Cursor

/-! ### Digits -/

/-- The digits at the front, and the cursor past them. -/
def digits (cursor : Cursor) : List Char × Cursor :=
  (cursor.rest.takeWhile Char.isDigit, cursor.skipWhile Char.isDigit)

/-- Puts digits behind a significand as long as it fits 64 bits. The second result is the number
of digits that are left over. -/
def significandFrom (value : Nat) : List Char → Nat × Nat
  | [] => (value, 0)
  | digit :: rest =>
    let longer := value * 10 + (digit.toNat - '0'.toNat)
    if longer < UInt64.size then significandFrom longer rest else (value, rest.length + 1)

/-- The value of the digits of an exponent. If it does not fit 32 bits with a sign, the error is
the number of digits that it takes to see that. -/
def exponentFrom : (value read : Nat) → List Char → Except Nat Nat
  | value, _, [] => .ok value
  | value, read, digit :: rest =>
    let longer := value * 10 + (digit.toNat - '0'.toNat)
    if longer < Nat.pow 2 31 then exponentFrom longer (read + 1) rest else .error (read + 1)

/-! ### Numbers -/

/-- An integer from its sign and magnitude. A negative zero is a floating-point number, because no
integer can hold it, and so is what does not fit 64 bits with a sign. -/
def integral (negative : Bool) (magnitude : Nat) : Number :=
  if !negative then .integer magnitude
  else if magnitude = 0 ∨ Nat.pow 2 63 < magnitude then
    .real ((Double.ofQuotient magnitude 1).signed true)
  else .integer (-(magnitude : Int))

/-- The floating-point number that has been read up to here, unless it is too large. -/
def real (cursor : Cursor) (negative : Bool) (significand : Nat) (power : Int) :
    Except Fault (Number × Cursor) :=
  match Double.ofScaled? negative significand power with
  | some value => .ok (.real value, cursor)
  | none => .error (cursor.fault .numberOutOfRange)

/-- The rest of a floating-point number, whose exponent is next. The exponent decides alone if it
is too long for 32 bits. -/
def exponent (cursor : Cursor) (negative : Bool) (significand : Nat) (power : Int) :
    Except Fault (Number × Cursor) :=
  let cursor := cursor.skip
  let (below, cursor) :=
    match cursor.rest with
    | '+' :: _ => (false, cursor.skip)
    | '-' :: _ => (true, cursor.skip)
    | _ => (false, cursor)
  match cursor.rest with
  | [] => .error (cursor.fault .endInValue)
  | character :: _ =>
    if !character.isDigit then .error (cursor.faultAhead .invalidNumber)
    else
      let (digits, after) := cursor.digits
      match exponentFrom 0 0 digits with
      | .ok value =>
        after.real negative significand (if below then power - value else power + value)
      | .error count =>
        if below || significand = 0 then .ok (.real (Double.zero.signed negative), after)
        else .error ⟨.numberOutOfRange, cursor.line, cursor.column + count⟩

/-- The rest of a floating-point number behind its digits. -/
def behindDigits (cursor : Cursor) (negative : Bool) (significand : Nat) (power : Int) :
    Except Fault (Number × Cursor) :=
  match cursor.rest with
  | 'e' :: _ | 'E' :: _ => cursor.exponent negative significand power
  | _ => cursor.real negative significand power

/-- A number whose sign, if any, has been read. One zero may not be followed by more digits. -/
def number (cursor : Cursor) (negative : Bool) : Except Fault (Number × Cursor) :=
  match cursor.rest with
  | [] => .error (cursor.fault .endInValue)
  | first :: next =>
    if !first.isDigit then .error (cursor.faultAhead .invalidNumber)
    else if first = '0' && next.head?.any Char.isDigit then
      .error (cursor.skip.faultAhead .invalidNumber)
    else
      let (whole, cursor) := cursor.digits
      let (significand, left) := significandFrom 0 whole
      match cursor.rest with
      | '.' :: _ =>
        let (fraction, cursor) := cursor.skip.digits
        if fraction.isEmpty then
          .error (cursor.faultAhead (if cursor.rest.isEmpty then .endInValue else .invalidNumber))
        else
          let (significand, dropped) := significandFrom significand fraction
          let places := fraction.length - dropped
          cursor.behindDigits negative significand ((left : Int) - places)
      | 'e' :: _ | 'E' :: _ => cursor.exponent negative significand left
      | _ =>
        if left = 0 then .ok (integral negative significand, cursor)
        else cursor.real negative significand left

end SqlImage.Json.Cursor
