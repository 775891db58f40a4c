/-
This file reads decimal numbers: digits, perhaps a point among them, perhaps an
exponent behind them. Nothing is rounded here; the value is a whole number times a
power of ten.
-/

namespace SqlImage

/-- The number `digits * 10 ^ power`. -/
structure Decimal where
  digits : Nat
  power : Int
deriving DecidableEq, Repr

namespace Decimal

/-- The value of decimal digits, put behind a value. -/
def digitsFrom (value : Nat) (digits : List Char) : Nat :=
  digits.foldl (fun value digit => value * 10 + (digit.toNat - '0'.toNat)) value

/-- The value of a text that is made of digits only, at least one of them. -/
def digits? (text : List Char) : Option Nat :=
  if text.isEmpty || !text.all Char.isDigit then none else some (digitsFrom 0 text)

/-- The value of a text that is an exponent with an optional sign, or empty. -/
def exponent? : List Char → Option Int
  | [] => some 0
  | mark :: text =>
    if mark ≠ 'e' ∧ mark ≠ 'E' then none
    else
      match text with
      | '-' :: rest => (digits? rest).map fun value => -(value : Int)
      | '+' :: rest => (digits? rest).map Int.ofNat
      | rest => (digits? rest).map Int.ofNat

/-- The number that a text stands for, if it stands for one. -/
def ofText? (text : List Char) : Option Decimal := do
  let whole := text.takeWhile Char.isDigit
  let rest := text.dropWhile Char.isDigit
  let (fraction, rest) :=
    match rest with
    | '.' :: rest => (rest.takeWhile Char.isDigit, rest.dropWhile Char.isDigit)
    | rest => ([], rest)
  if whole.isEmpty && fraction.isEmpty then none
  else
    let exponent ← exponent? rest
    return ⟨digitsFrom (digitsFrom 0 whole) fraction, exponent - fraction.length⟩

end Decimal

end SqlImage
