import Workings.Number.Binary64

/-!
# The fewest digits that read back

Every double is the rounding of an interval of reals. Of all decimal grids, with steps of one, ten,
a tenth and so on, the coarsest one with a point in that interval gives the shortest decimal that
reads back as the same double; of several points the nearest one is taken.
-/

namespace Workings.Number

/-- The positive decimal `digits * 10 ^ exponent`. -/
structure Decimal where
  digits : Nat
  exponent : Int
  deriving Repr, DecidableEq

/-- The reals that round to one positive double, as fractions over a common denominator. The ends
belong to the interval exactly when `closed` holds. -/
structure RoundingInterval where
  low : Nat
  middle : Nat
  high : Nat
  denominator : Nat
  closed : Bool
  deriving Repr

/-- The interval of a double with a positive significand. It reaches half way to both neighbours, of
which the lower one is nearer below a power of two. Ties go to even significands, so only these own
their ends. -/
def RoundingInterval.of (parts : Scaled) : RoundingInterval :=
  let quarter := parts.exponent - 2
  let scale := power 2 quarter
  let below :=
    if parts.significand = leadingBit ∧ leastExponent < parts.exponent then 1 else 2
  { low := (4 * parts.significand - below) * scale
    middle := 4 * parts.significand * scale
    high := (4 * parts.significand + 2) * scale
    denominator := power 2 (-quarter)
    closed := parts.significand % 2 = 0 }

/-- The point of the grid of step `10 ^ exponent` that is nearest to the middle of the interval
among those inside it. Of two equally near the higher one is taken. -/
def RoundingInterval.pointOn? (interval : RoundingInterval) (exponent : Int) : Option Nat :=
  let scale := power 10 (-exponent)
  let denominator := interval.denominator * power 10 exponent
  let low := interval.low * scale
  let middle := interval.middle * scale
  let high := interval.high * scale
  let floor := middle / denominator
  let lower := floor * denominator
  let upper := lower + denominator
  let lowerInside := if interval.closed then low ≤ lower else low < lower
  let upperInside := if interval.closed then upper ≤ high else upper < high
  if lowerInside ∧ upperInside then
    if 2 * middle < lower + upper then some floor else some (floor + 1)
  else if lowerInside then some floor
  else if upperInside then some (floor + 1)
  else none

/-- Refines the grid up to `tries` times until it has a point inside the interval. -/
def RoundingInterval.refine (interval : RoundingInterval) : Nat → Int → Decimal
  | 0, exponent =>
    ⟨interval.middle * power 10 (-exponent) / interval.denominator, exponent⟩
  | tries + 1, exponent =>
    match interval.pointOn? exponent with
    | some digits => ⟨digits, exponent⟩
    | none => interval.refine tries (exponent - 1)

/-- A power of ten that is above the given positive double. -/
def powerAbove (parts : Scaled) : Int :=
  (parts.exponent + parts.significand.log2 + 1) * 30103 / 100000 + 1

/-- The shortest decimal of a double with a positive significand. Seventeen digits always suffice,
so a grid is found after few refinements. -/
def Scaled.shortest (parts : Scaled) : Decimal :=
  (RoundingInterval.of parts).refine 24 (powerAbove parts)

end Workings.Number
