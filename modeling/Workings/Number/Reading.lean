/-!
# Reading numbers

A number is read from a sign, digits with an optional point, and an optional exponent, and rounded
to the nearest double. The words for infinity and for what is no number are read in any case of
their letters.
-/

namespace Workings.Number

/-- The value of a list of decimal digits. -/
def valueOfDigits (chars : List Char) : Nat :=
  chars.foldl (fun value char => 10 * value + (char.toNat - '0'.toNat)) 0

/-- Digits with an optional point, and what follows. -/
structure Mantissa where
  whole : List Char
  fraction : List Char
  rest : List Char

/-- Splits off the digits before and after an optional point. -/
def Mantissa.split (chars : List Char) : Mantissa :=
  let whole := chars.takeWhile Char.isDigit
  match chars.dropWhile Char.isDigit with
  | '.' :: after => ⟨whole, after.takeWhile Char.isDigit, after.dropWhile Char.isDigit⟩
  | rest => ⟨whole, [], rest⟩

/-- A sign in front of a text, and the text without it. -/
def splitSign : List Char → Bool × List Char
  | '-' :: rest => (true, rest)
  | '+' :: rest => (false, rest)
  | chars => (false, chars)

/-- The exponent written at the end of a number: nothing at all, or a letter and a whole number. -/
def exponent? : List Char → Option Int
  | [] => some 0
  | letter :: rest =>
    if letter = 'e' ∨ letter = 'E' then
      let (negative, digits) := splitSign rest
      if digits.isEmpty ∨ ¬ digits.all Char.isDigit then none
      else if negative then some (-(valueOfDigits digits : Int))
      else some (valueOfDigits digits)
    else none

/-- The double nearest to `digits * 10 ^ exponent`, where `length` counts the digits behind any
leading zeros. Beyond the reach of doubles the power is not computed: such numbers are infinite or
zero. -/
def ofDecimal (digits : Nat) (length : Nat) (exponent : Int) : Float :=
  if digits = 0 then 0
  else if 400 < exponent + length then 1 / 0
  else if exponent + length < -400 then 0
  else if exponent < 0 then Float.ofScientific digits true (-exponent).toNat
  else Float.ofScientific digits false exponent.toNat

/-- Reads a number without a sign that is made of digits. -/
def readDecimal? (chars : List Char) : Option Float := do
  let parts := Mantissa.split chars
  let digits := parts.whole ++ parts.fraction
  if digits.isEmpty then none
  else
    let power ← exponent? parts.rest
    let length := (digits.dropWhile (· = '0')).length
    some (ofDecimal (valueOfDigits digits) length (power - parts.fraction.length))

/-- Reads a number. Nothing may stand around it. -/
def read? (source : String) : Option Float :=
  let (negative, chars) := splitSign source.toList
  let word := String.ofList (chars.map Char.toLower)
  let magnitude? :=
    if word = "inf" ∨ word = "infinity" then some (1 / 0)
    else if word = "nan" then some (0 / 0)
    else readDecimal? chars
  magnitude?.map fun magnitude => if negative then -magnitude else magnitude

end Workings.Number
