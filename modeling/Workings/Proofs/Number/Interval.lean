import Mathlib.Algebra.Order.Field.Power
import Mathlib.Data.Rat.Cast.Order
import Mathlib.Tactic.FieldSimp
import Mathlib.Tactic.GCongr
import Mathlib.Tactic.Linarith
import Mathlib.Tactic.NormNum
import Mathlib.Tactic.Positivity
import Mathlib.Tactic.Ring
import Workings.Number.Shortest

/-!
# The rounding intervals of doubles

The shortest decimal of a double lies in the interval of the reals that round to it, and the
intervals of two doubles have no real in common. So the decimal determines the double.
-/

namespace Workings.Number

/-- The rational that a decimal writes. -/
def Decimal.toRat (decimal : Decimal) : ℚ :=
  decimal.digits * 10 ^ decimal.exponent

/-- A power of a natural number is a fraction of two powers, one of which is one. -/
theorem cast_power_div (base : Nat) (positive : 0 < base) (exponent : Int) :
    (power base exponent : ℚ) / power base (-exponent) = (base : ℚ) ^ exponent := by
  have nonzero : (base : ℚ) ≠ 0 := by exact_mod_cast positive.ne'
  simp only [power, Nat.pow_eq, Nat.cast_pow]
  rcases le_total 0 exponent with large | small
  · obtain ⟨count, rfl⟩ := Int.eq_ofNat_of_zero_le large
    simp
  · obtain ⟨count, count_eq⟩ := Int.eq_ofNat_of_zero_le (Int.neg_nonneg.2 small)
    obtain rfl : exponent = -(count : Int) := by omega
    simp

/-- Powers of a positive number are positive. -/
theorem power_pos (base : Nat) (positive : 0 < base) (exponent : Int) :
    0 < power base exponent :=
  Nat.pow_pos positive

/-- The parts of a double: its significand has at most 53 bits, and exactly so many unless the
exponent is the least one. -/
structure Scaled.Canonical (parts : Scaled) : Prop where
  exponent_ge : leastExponent ≤ parts.exponent
  exponent_le : parts.exponent ≤ 971
  significand_lt : parts.significand < 2 * leadingBit
  leading : leastExponent < parts.exponent → leadingBit ≤ parts.significand

/-- Zero has the least exponent. -/
theorem Scaled.Canonical.exponent_eq_of_zero {parts : Scaled} (canonical : parts.Canonical)
    (zero : parts.significand = 0) : parts.exponent = leastExponent := by
  by_contra above
  have leading := canonical.leading (lt_of_le_of_ne canonical.exponent_ge (Ne.symm above))
  simp only [leadingBit] at leading
  omega

namespace RoundingInterval

/-- Whether a rational is in the interval. -/
structure Contains (interval : RoundingInterval) (point : ℚ) : Prop where
  low_le : interval.low ≤ point * interval.denominator
  le_high : point * interval.denominator ≤ interval.high
  ends : interval.closed = false →
    interval.low ≠ point * interval.denominator ∧ point * interval.denominator ≠ interval.high

/-- An interval with a middle between its ends. -/
structure Proper (interval : RoundingInterval) : Prop where
  low_lt : interval.low < interval.middle
  lt_high : interval.middle < interval.high
  denominator_pos : 0 < interval.denominator

/-- The step of a grid in the whole numbers in which `pointOn?` computes. -/
def step (interval : RoundingInterval) (exponent : Int) : Nat :=
  interval.denominator * power 10 exponent

/-- A grid whose step is no longer than the lower half of the interval. -/
def Fine (interval : RoundingInterval) (exponent : Int) : Prop :=
  interval.low * power 10 (-exponent) + interval.step exponent
    ≤ interval.middle * power 10 (-exponent)

/-- A point of a grid in the whole numbers in which `pointOn?` computes. -/
theorem toRat_mul (interval : RoundingInterval) (digits : Nat) (exponent : Int) :
    (Decimal.mk digits exponent).toRat * interval.denominator * power 10 (-exponent)
      = (digits * interval.step exponent : Nat) := by
  have nonzero : (power 10 (-exponent) : ℚ) ≠ 0 := by
    exact_mod_cast (power_pos _ (by decide) (-exponent)).ne'
  have grid := cast_power_div 10 (by decide) exponent
  rw [div_eq_iff nonzero] at grid
  simp only [Decimal.toRat, step]
  push_cast at grid ⊢
  rw [grid]
  ring

/-- A point of a grid is in the interval if it is so in whole numbers. -/
theorem contains_of_le {interval : RoundingInterval} {digits : Nat} {exponent : Int}
    (low_le : interval.low * power 10 (-exponent) ≤ digits * interval.step exponent)
    (le_high : digits * interval.step exponent ≤ interval.high * power 10 (-exponent))
    (ends : interval.closed = false →
      interval.low * power 10 (-exponent) ≠ digits * interval.step exponent
        ∧ digits * interval.step exponent ≠ interval.high * power 10 (-exponent)) :
    interval.Contains (Decimal.mk digits exponent).toRat := by
  have positive : (0 : ℚ) < power 10 (-exponent) := by
    exact_mod_cast power_pos _ (by decide) (-exponent)
  have scaled := toRat_mul interval digits exponent
  constructor
  · rw [← mul_le_mul_iff_of_pos_right positive, scaled]
    exact_mod_cast low_le
  · rw [← mul_le_mul_iff_of_pos_right positive, scaled]
    exact_mod_cast le_high
  · intro isOpen
    obtain ⟨apartLow, apartHigh⟩ := ends isOpen
    constructor <;> intro equal
    · apply apartLow
      rw [← equal] at scaled
      exact_mod_cast scaled
    · apply apartHigh
      rw [equal] at scaled
      exact_mod_cast scaled.symm

/-- A point that is found on a grid is one of the two around the middle, on the side of it where the
interval reaches it. -/
theorem eq_of_pointOn? {interval : RoundingInterval} {exponent : Int} {digits : Nat}
    (found : interval.pointOn? exponent = some digits) :
    let scale := power 10 (-exponent)
    let floor := interval.middle * scale / interval.step exponent
    let lower := floor * interval.step exponent
    let upper := lower + interval.step exponent
    (digits = floor ∧ interval.low * scale ≤ lower
        ∧ (interval.closed = false → interval.low * scale ≠ lower))
      ∨ (digits = floor + 1 ∧ upper ≤ interval.high * scale
        ∧ (interval.closed = false → upper ≠ interval.high * scale)) := by
  intro scale floor lower upper
  change (let lowerInside := if interval.closed then interval.low * scale ≤ lower
            else interval.low * scale < lower
          let upperInside := if interval.closed then upper ≤ interval.high * scale
            else upper < interval.high * scale
          if lowerInside ∧ upperInside then
            if 2 * (interval.middle * scale) < lower + upper then some floor else some (floor + 1)
          else if lowerInside then some floor
          else if upperInside then some (floor + 1)
          else none) = some digits at found
  cases isClosed : interval.closed <;>
    simp only [isClosed, if_true, Bool.false_eq_true, if_false] at found <;>
    grind

/-- A point that is found on a grid is in the interval. -/
theorem contains_of_pointOn? {interval : RoundingInterval} (proper : interval.Proper)
    {exponent : Int} {digits : Nat} (found : interval.pointOn? exponent = some digits) :
    interval.Contains (Decimal.mk digits exponent).toRat := by
  have scale_pos := power_pos 10 (by decide) (-exponent)
  have step_pos : 0 < interval.step exponent :=
    Nat.mul_pos proper.denominator_pos (power_pos _ (by decide) exponent)
  have lowMiddle := Nat.mul_lt_mul_of_pos_right proper.low_lt scale_pos
  have middleHigh := Nat.mul_lt_mul_of_pos_right proper.lt_high scale_pos
  have below := Nat.div_mul_le_self (interval.middle * power 10 (-exponent))
    (interval.step exponent)
  have above := Nat.lt_div_mul_add step_pos (a := interval.middle * power 10 (-exponent))
  rcases eq_of_pointOn? found with ⟨rfl, low_le, apart⟩ | ⟨rfl, le_high, apart⟩
  · exact contains_of_le low_le (by omega) fun isOpen => ⟨apart isOpen, by omega⟩
  · have next := Nat.add_one_mul (interval.middle * power 10 (-exponent) / interval.step exponent)
      (interval.step exponent)
    rw [← next] at le_high above apart
    exact contains_of_le (by omega) le_high fun isOpen => ⟨by omega, apart isOpen⟩

/-- A fine grid has a point in the interval. -/
theorem pointOn?_isSome {interval : RoundingInterval} (proper : interval.Proper) {exponent : Int}
    (fine : interval.Fine exponent) : (interval.pointOn? exponent).isSome := by
  have step_pos : 0 < interval.step exponent :=
    Nat.mul_pos proper.denominator_pos (power_pos _ (by decide) exponent)
  have above := Nat.lt_div_mul_add step_pos (a := interval.middle * power 10 (-exponent))
  have low_lt : interval.low * power 10 (-exponent)
      < interval.middle * power 10 (-exponent) / interval.step exponent
        * interval.step exponent := by
    unfold Fine at fine
    omega
  have inside : if interval.closed then
        interval.low * power 10 (-exponent)
          ≤ interval.middle * power 10 (-exponent) / interval.step exponent
            * interval.step exponent
      else interval.low * power 10 (-exponent)
          < interval.middle * power 10 (-exponent) / interval.step exponent
            * interval.step exponent := by
    split
    · exact low_lt.le
    · exact low_lt
  unfold pointOn?
  grind [step]

/-- The decimal that refining ends with is in the interval, if one of the grids that are tried is
fine. -/
theorem contains_refine {interval : RoundingInterval} (proper : interval.Proper) {tries : Nat}
    {exponent : Int} (fine : ∃ count < tries, interval.Fine (exponent - count)) :
    interval.Contains (interval.refine tries exponent).toRat := by
  induction tries generalizing exponent with
  | zero => obtain ⟨_, impossible, _⟩ := fine; omega
  | succ tries hypothesis =>
    unfold refine
    cases found : interval.pointOn? exponent with
    | some digits => exact contains_of_pointOn? proper found
    | none =>
      obtain ⟨count, bounded, isFine⟩ := fine
      obtain _ | count := count
      · have isSome := pointOn?_isSome proper isFine
        simp [found] at isSome
      · refine hypothesis ⟨count, by omega, ?_⟩
        convert isFine using 1
        push_cast
        ring

end RoundingInterval

/-- A power of ten is below a power of two if its exponent is small enough. -/
theorem ten_zpow_le_two_zpow {ten two : Int} (bounded : 93 * ten ≤ 28 * two)
    (bounded' : 10 * ten ≤ 3 * two) : (10 : ℚ) ^ ten ≤ 2 ^ two := by
  rcases le_total 0 ten with nonneg | nonpos
  · -- 10 ^ 3 < 2 ^ 10
    refine le_of_pow_le_pow_left₀ (n := 3) (by norm_num) (by positivity) ?_
    calc ((10 : ℚ) ^ ten) ^ 3 = (1000 : ℚ) ^ ten := by
          rw [← zpow_natCast, ← zpow_mul, mul_comm, zpow_mul]; norm_num
      _ ≤ (1024 : ℚ) ^ ten := zpow_le_zpow_left₀ nonneg (by norm_num) (by norm_num)
      _ = 2 ^ (10 * ten) := by rw [zpow_mul]; norm_num
      _ ≤ 2 ^ (3 * two) := zpow_le_zpow_right₀ (by norm_num) bounded'
      _ = (2 ^ two) ^ 3 := by rw [mul_comm, zpow_mul, zpow_ofNat]
  · -- 2 ^ 93 < 10 ^ 28
    refine le_of_pow_le_pow_left₀ (n := 28) (by norm_num) (by positivity) ?_
    calc ((10 : ℚ) ^ ten) ^ 28 = ((10 : ℚ) ^ 28) ^ ten := by
          rw [← zpow_natCast, ← zpow_mul, mul_comm, zpow_mul]; norm_num
      _ = (((10 : ℚ) ^ 28)⁻¹) ^ (-ten) := by rw [inv_zpow', neg_neg]
      _ ≤ (((2 : ℚ) ^ 93)⁻¹) ^ (-ten) :=
          zpow_le_zpow_left₀ (by omega) (by positivity) (by norm_num)
      _ = ((2 : ℚ) ^ 93) ^ ten := by rw [inv_zpow', neg_neg]
      _ = 2 ^ (93 * ten) := by rw [zpow_mul]; norm_num
      _ ≤ 2 ^ (28 * two) := zpow_le_zpow_right₀ (by norm_num) bounded
      _ = (2 ^ two) ^ 28 := by rw [mul_comm, zpow_mul, zpow_ofNat]

namespace RoundingInterval

variable {parts : Scaled}

/-- The interval of a double with a positive significand is proper. -/
theorem of_proper (positive : 0 < parts.significand) : (RoundingInterval.of parts).Proper := by
  have scale_pos := power_pos 2 (by decide) (parts.exponent - 2)
  constructor
  · refine Nat.mul_lt_mul_of_pos_right ?_ scale_pos
    split <;> omega
  · exact Nat.mul_lt_mul_of_pos_right (by omega) scale_pos
  · exact power_pos _ (by decide) _

/-- How far the interval of a double reaches below it, in quarters of the unit of its last bit. -/
def quartersBelow (parts : Scaled) : Nat :=
  if parts.significand = leadingBit ∧ leastExponent < parts.exponent then 1 else 2

/-- The twenty-first grid that is tried is always fine enough. -/
theorem of_fine (canonical : parts.Canonical) (positive : 0 < parts.significand) :
    (RoundingInterval.of parts).Fine (powerAbove parts - 20) := by
  have bits : parts.significand.log2 < 53 :=
    (Nat.log2_lt positive.ne').2 canonical.significand_lt
  have least := canonical.exponent_ge
  have greatest := canonical.exponent_le
  simp only [leastExponent] at least
  have small : (10 : ℚ) ^ (powerAbove parts - 20) ≤ 2 ^ (parts.exponent - 2) := by
    apply ten_zpow_le_two_zpow <;> unfold powerAbove <;> omega
  generalize powerAbove parts - 20 = exponent at small
  have ten := cast_power_div 10 (by decide) exponent
  have two := cast_power_div 2 (by decide) (parts.exponent - 2)
  have ten_pos := power_pos 10 (by decide) (-exponent)
  have two_pos := power_pos 2 (by decide) (-(parts.exponent - 2))
  push_cast at ten two
  rw [← ten, ← two,
    div_le_div_iff₀ (by exact_mod_cast ten_pos) (by exact_mod_cast two_pos)] at small
  have small : power 10 exponent * power 2 (-(parts.exponent - 2))
      ≤ power 2 (parts.exponent - 2) * power 10 (-exponent) := by exact_mod_cast small
  have quarter : (4 * parts.significand - quartersBelow parts) + 1 ≤ 4 * parts.significand := by
    unfold quartersBelow
    split <;> omega
  calc (4 * parts.significand - quartersBelow parts) * power 2 (parts.exponent - 2)
          * power 10 (-exponent) + power 2 (-(parts.exponent - 2)) * power 10 exponent
      ≤ (4 * parts.significand - quartersBelow parts) * power 2 (parts.exponent - 2)
          * power 10 (-exponent) + power 2 (parts.exponent - 2) * power 10 (-exponent) := by
        rw [Nat.mul_comm (power 2 (-(parts.exponent - 2)))]
        exact Nat.add_le_add_left small _
    _ = ((4 * parts.significand - quartersBelow parts) + 1)
          * (power 2 (parts.exponent - 2) * power 10 (-exponent)) := by ring
    _ ≤ 4 * parts.significand * (power 2 (parts.exponent - 2) * power 10 (-exponent)) :=
        Nat.mul_le_mul_right _ quarter
    _ = 4 * parts.significand * power 2 (parts.exponent - 2) * power 10 (-exponent) := by ring

/-- The shortest decimal of a double is in the interval of the double. -/
theorem contains_shortest (canonical : parts.Canonical) (positive : 0 < parts.significand) :
    (RoundingInterval.of parts).Contains parts.shortest.toRat :=
  contains_refine (of_proper positive) ⟨20, by decide, of_fine canonical positive⟩

/-- A point in the interval of a double is between its ends, counted in quarters of the unit of the
last bit. -/
theorem of_contains_iff (point : ℚ) :
    (RoundingInterval.of parts).Contains point ↔
      (4 * parts.significand - quartersBelow parts : Nat) * 2 ^ (parts.exponent - 2) ≤ point
        ∧ point ≤ (4 * parts.significand + 2 : Nat) * 2 ^ (parts.exponent - 2)
        ∧ (parts.significand % 2 = 1 →
          (4 * parts.significand - quartersBelow parts : Nat) * 2 ^ (parts.exponent - 2) ≠ point
            ∧ point ≠ (4 * parts.significand + 2 : Nat) * 2 ^ (parts.exponent - 2)) := by
  have positive : (0 : ℚ) < power 2 (-(parts.exponent - 2)) := by
    exact_mod_cast power_pos _ (by decide) (-(parts.exponent - 2))
  have unit := cast_power_div 2 (by decide) (parts.exponent - 2)
  push_cast at unit
  -- an end of the interval is a number of quarters
  have scaled (quarters : Nat) :
      ((quarters * power 2 (parts.exponent - 2) : Nat) : ℚ)
        = quarters * 2 ^ (parts.exponent - 2) * power 2 (-(parts.exponent - 2)) := by
    rw [← unit]
    push_cast
    field_simp
  have isOpen : (RoundingInterval.of parts).closed = false ↔ parts.significand % 2 = 1 := by
    simp [RoundingInterval.of]
  have low : ((RoundingInterval.of parts).low : ℚ)
      = (4 * parts.significand - quartersBelow parts : Nat) * 2 ^ (parts.exponent - 2)
        * (RoundingInterval.of parts).denominator := scaled _
  have high : ((RoundingInterval.of parts).high : ℚ)
      = (4 * parts.significand + 2 : Nat) * 2 ^ (parts.exponent - 2)
        * (RoundingInterval.of parts).denominator := scaled _
  have denominator_pos : (0 : ℚ) < (RoundingInterval.of parts).denominator := positive
  have cancel (left right : ℚ) :
      left * (RoundingInterval.of parts).denominator
          = right * (RoundingInterval.of parts).denominator ↔ left = right :=
    mul_left_inj' denominator_pos.ne'
  constructor
  · rintro ⟨low_le, le_high, ends⟩
    rw [low] at low_le ends
    rw [high] at le_high ends
    refine ⟨le_of_mul_le_mul_right low_le denominator_pos,
      le_of_mul_le_mul_right le_high denominator_pos, fun odd => ?_⟩
    have apart := ends (isOpen.2 odd)
    rwa [ne_eq, ne_eq, cancel, cancel] at apart
  · rintro ⟨low_le, le_high, ends⟩
    refine ⟨?_, ?_, fun closed => ?_⟩
    · rw [low]
      exact mul_le_mul_of_nonneg_right low_le denominator_pos.le
    · rw [high]
      exact mul_le_mul_of_nonneg_right le_high denominator_pos.le
    · rw [low, high, ne_eq, ne_eq, cancel, cancel]
      exact ends (isOpen.1 closed)

/-- Of two doubles with the same exponent, the interval of the lower one is below that of the other:
where they meet, one of the two significands is odd and does not own the end. -/
theorem not_contains_of_significand_lt {left right : Scaled} {point : ℚ}
    (canonical : left.Canonical) (exponents : left.exponent = right.exponent)
    (lower : left.significand < right.significand)
    (inLeft : (RoundingInterval.of left).Contains point) :
    ¬ (RoundingInterval.of right).Contains point := by
  intro inRight
  obtain ⟨-, le_high, leftEnds⟩ := (of_contains_iff point).1 inLeft
  obtain ⟨low_le, -, rightEnds⟩ := (of_contains_iff point).1 inRight
  have unit_pos : (0 : ℚ) < 2 ^ (right.exponent - 2) := by positivity
  have below : quartersBelow right = 2 := by
    unfold quartersBelow
    refine if_neg fun atLeading => ?_
    have := canonical.leading (by omega)
    omega
  rw [exponents] at le_high leftEnds
  rw [below] at low_le rightEnds
  have meeting := le_of_mul_le_mul_right (low_le.trans le_high) unit_pos
  have next : right.significand = left.significand + 1 := by
    have : 4 * right.significand - 2 ≤ 4 * left.significand + 2 := by exact_mod_cast meeting
    omega
  have same : 4 * right.significand - 2 = 4 * left.significand + 2 := by omega
  rw [same] at low_le rightEnds
  have atEnd := le_antisymm le_high low_le
  rcases Nat.mod_two_eq_zero_or_one left.significand with even | odd
  · exact (rightEnds (by omega)).1 atEnd.symm
  · exact (leftEnds odd).2 atEnd

/-- The interval of a double with a lower exponent is below that of the other. They meet under a
power of two only, where the lower significand is odd. -/
theorem not_contains_of_exponent_lt {left right : Scaled} {point : ℚ}
    (canonicalLeft : left.Canonical) (canonicalRight : right.Canonical)
    (lower : left.exponent < right.exponent)
    (inLeft : (RoundingInterval.of left).Contains point) :
    ¬ (RoundingInterval.of right).Contains point := by
  intro inRight
  obtain ⟨-, le_high, leftEnds⟩ := (of_contains_iff point).1 inLeft
  obtain ⟨low_le, -, -⟩ := (of_contains_iff point).1 inRight
  have unit_pos : (0 : ℚ) < 2 ^ (left.exponent - 2) := by positivity
  have aboveLeast : leastExponent < right.exponent := canonicalLeft.exponent_ge.trans_lt lower
  have leading := canonicalRight.leading aboveLeast
  have bounded := canonicalLeft.significand_lt
  have quarters : 4 * leadingBit - 1 ≤ 4 * right.significand - quartersBelow right := by
    unfold quartersBelow
    split <;> omega
  have units : (2 : ℚ) * 2 ^ (left.exponent - 2) ≤ 2 ^ (right.exponent - 2) := by
    rw [← zpow_one_add₀ two_ne_zero]
    exact zpow_le_zpow_right₀ one_le_two (by omega)
  have meeting : ((2 * (4 * leadingBit - 1) : Nat) : ℚ) * 2 ^ (left.exponent - 2)
      ≤ point := by
    calc ((2 * (4 * leadingBit - 1) : Nat) : ℚ) * 2 ^ (left.exponent - 2)
        = ((4 * leadingBit - 1 : Nat) : ℚ) * (2 * 2 ^ (left.exponent - 2)) := by push_cast; ring
      _ ≤ (4 * right.significand - quartersBelow right : Nat) * 2 ^ (right.exponent - 2) := by
        gcongr
      _ ≤ point := low_le
  have counted := le_of_mul_le_mul_right (meeting.trans le_high) unit_pos
  have counted : 2 * (4 * leadingBit - 1) ≤ 4 * left.significand + 2 := by exact_mod_cast counted
  have same : 4 * left.significand + 2 = 2 * (4 * leadingBit - 1) := by
    simp only [leadingBit] at *
    omega
  rw [same] at le_high leftEnds
  have odd : left.significand % 2 = 1 := by
    simp only [leadingBit] at *
    omega
  exact (leftEnds odd).2 (le_antisymm le_high meeting)

/-- No rational is in the intervals of two doubles. -/
theorem eq_of_contains {left right : Scaled} {point : ℚ} (canonicalLeft : left.Canonical)
    (canonicalRight : right.Canonical) (inLeft : (RoundingInterval.of left).Contains point)
    (inRight : (RoundingInterval.of right).Contains point) :
    left.significand = right.significand ∧ left.exponent = right.exponent := by
  rcases lt_trichotomy left.exponent right.exponent with lower | same | higher
  · exact absurd inRight (not_contains_of_exponent_lt canonicalLeft canonicalRight lower inLeft)
  · rcases lt_trichotomy left.significand right.significand with less | equal | more
    · exact absurd inRight (not_contains_of_significand_lt canonicalLeft same less inLeft)
    · exact ⟨equal, same⟩
    · exact absurd inLeft
        (not_contains_of_significand_lt canonicalRight same.symm more inRight)
  · exact absurd inLeft (not_contains_of_exponent_lt canonicalRight canonicalLeft higher inRight)

end RoundingInterval

end Workings.Number
