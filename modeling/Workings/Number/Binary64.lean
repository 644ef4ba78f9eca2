/-!
# Doubles as scaled integers

A finite double is a sign and a significand times a power of two. Decoding reads these parts off the
bits of the number and assembling puts them back, so that printing, reading and the exact operations
of this library work on natural numbers.
-/

namespace Workings.Number

/-- The number `significand * 2 ^ exponent`, negated when `negative` holds. Both zeros have a
significand of zero and differ in their sign. -/
structure Scaled where
  negative : Bool
  significand : Nat
  exponent : Int
  deriving Repr, DecidableEq

/-- The exponent of the smallest positive double. -/
def leastExponent : Int := -1074

/-- The bit above the 52 bits of a fraction, which the significands of all but the smallest doubles
have. -/
def leadingBit : Nat := 0x10000000000000

/-- The bit that negates a double. -/
def signBit : Nat := 0x8000000000000000

/-- A power; a negative exponent counts as zero. -/
def power (base : Nat) (exponent : Int) : Nat :=
  Nat.pow base exponent.toNat

/-- The parts of a finite double; an infinity and a number that is none have no parts. -/
def decode? (value : Float) : Option Scaled :=
  let bits : Nat := value.toBits.toNat
  let fraction : Nat := bits % leadingBit
  let biased : Nat := bits / leadingBit % 2048
  let negative := bits / signBit == 1
  if biased = 2047 then none
  else if biased = 0 then some ⟨negative, fraction, leastExponent⟩
  else some ⟨negative, leadingBit + fraction, (biased : Int) - 1075⟩

/-- Multiplies by a power of two, dividing where the power is negative. -/
def shift (count : Nat) (places : Int) : Nat :=
  if 0 ≤ places then count * power 2 places else count / power 2 (-places)

/-- The double with the given parts. It is exact whenever the parts describe a double, whatever
power of two was taken out of the significand. -/
def Scaled.toFloat (parts : Scaled) : Float :=
  let sign := if parts.negative then signBit else 0
  if parts.significand = 0 then Float.ofBits (UInt64.ofNat sign)
  else
    let exponent := max leastExponent (parts.exponent + parts.significand.log2 - 52)
    let significand := shift parts.significand (parts.exponent - exponent)
    let magnitude :=
      if significand < leadingBit then significand
      else (exponent + 1075).toNat * leadingBit + (significand - leadingBit)
    Float.ofBits (UInt64.ofNat (sign + magnitude))

/-- Drops what stands after the point. -/
def truncate (value : Float) : Float :=
  if value < 0 then value.ceil else value.floor

/-- What stands after the point, with the sign of the number. -/
def fractionalPart (value : Float) : Float :=
  value - truncate value

/-- The nearest whole number; of two equally near the even one. -/
def roundToEven (value : Float) : Float :=
  if value - value.floor == 0.5 then 2 * (value / 2).round else value.round

/-- The remainder of the truncated quotient, which is always exact. It takes the sign of the
dividend. -/
def remainder (dividend divisor : Float) : Float :=
  match decode? dividend, decode? divisor with
  | some top, some bottom =>
    if bottom.significand = 0 then 0 / 0
    else
      let exponent := min top.exponent bottom.exponent
      let left := shift top.significand (top.exponent - exponent)
      let right := shift bottom.significand (bottom.exponent - exponent)
      Scaled.toFloat ⟨top.negative, left % right, exponent⟩
  | some _, none => if divisor.isNaN then divisor else dividend
  | none, _ => 0 / 0

end Workings.Number
