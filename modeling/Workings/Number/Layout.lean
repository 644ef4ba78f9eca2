import Workings.Number.Shortest

/-!
# How numbers are written

The shortest digits of a number are laid out in one of two ways: without an exponent, as results are
shown, or as a literal that always looks like a floating-point number. Percentages have a fixed
number of places.
-/

namespace Workings.Number

/-- The decimal digits of a natural number. -/
def wholeText (count : Nat) : String :=
  String.ofList (Nat.toDigits 10 count)

/-- Zeros. -/
def zeros (count : Nat) : String :=
  String.ofList (List.replicate count '0')

/-- Writes a decimal without an exponent: whole, or with a point among or before its digits. -/
def Decimal.positional (decimal : Decimal) : String :=
  let written := wholeText decimal.digits
  if 0 ≤ decimal.exponent then written ++ zeros decimal.exponent.toNat
  else
    let places := (-decimal.exponent).toNat
    let chars := Nat.toDigits 10 decimal.digits
    if places < chars.length then
      String.ofList (chars.take (chars.length - places)) ++ "."
        ++ String.ofList (chars.drop (chars.length - places))
    else "0." ++ zeros (places - chars.length) ++ written

/-- The power of ten of the leading digit. -/
def Decimal.magnitude (decimal : Decimal) : Int :=
  decimal.exponent + ((Nat.toDigits 10 decimal.digits).length - 1 : Nat)

/-- Writes a decimal with one digit before the point and an exponent. -/
def Decimal.scientific (decimal : Decimal) : String :=
  let power := toString decimal.magnitude
  match Nat.toDigits 10 decimal.digits with
  | lead :: [] => String.singleton lead ++ "e" ++ power
  | lead :: rest => String.singleton lead ++ "." ++ String.ofList rest ++ "e" ++ power
  | [] => ""

/-- The texts of what is not a finite number. -/
def nonFinite (value : Float) : String :=
  if value.isNaN then "NaN" else if value < 0 then "-inf" else "inf"

/-- The shortest text that reads back as the number, without an exponent. Both zeros are `0`. -/
def text (value : Float) : String :=
  match decode? value with
  | none => nonFinite value
  | some parts =>
    if parts.significand = 0 then "0"
    else (if parts.negative then "-" else "") ++ parts.shortest.positional

/-- The number as a literal: with a point or an exponent, and with the sign of zero. From ten to the
sixteenth on, and below ten to the minus fourth, it has an exponent. -/
def literal (value : Float) : String :=
  match decode? value with
  | none => nonFinite value
  | some parts =>
    let sign := if parts.negative then "-" else ""
    if parts.significand = 0 then sign ++ "0.0"
    else
      let decimal := parts.shortest
      if decimal.magnitude < -4 ∨ 16 ≤ decimal.magnitude then sign ++ decimal.scientific
      else if 0 ≤ decimal.exponent then sign ++ decimal.positional ++ ".0"
      else sign ++ decimal.positional

/-- The quotient to the nearest whole number; a half goes to the even one. -/
def roundQuotient (numerator denominator : Nat) : Nat :=
  let quotient := numerator / denominator
  let twice := 2 * (numerator % denominator)
  if denominator < twice ∨ (twice = denominator ∧ quotient % 2 = 1) then quotient + 1 else quotient

/-- The number to one place after the point. A half goes to the even neighbour. -/
def onePlace (value : Float) : String :=
  match decode? value with
  | none => nonFinite value
  | some parts =>
    let tenths :=
      roundQuotient (parts.significand * 10 * power 2 parts.exponent) (power 2 (-parts.exponent))
    (if parts.negative then "-" else "") ++ wholeText (tenths / 10) ++ "."
      ++ wholeText (tenths % 10)

end Workings.Number
