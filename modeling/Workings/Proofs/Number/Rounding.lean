import Workings.Proofs.Number.Decoding

/-!
# Rounding to doubles

The arithmetic of doubles keeps the leading bits of a result and two bits that tell where between
two neighbours the result lies. That is enough to round a number to the double in whose rounding
interval it lies.
-/

namespace Workings.Number

open Float.Model Float.Model.UnpackedFloat

/-! ## Nearest whole numbers -/

/-- What an extended mantissa tells of a number: the whole part, whether half of one is passed, and
whether the number is neither whole nor half way. -/
structure Locates (em : ExtendedMantissa) (point : ℚ) : Prop where
  le : em.mantissa ≤ point
  lt : point < em.mantissa + 1
  round_iff : em.roundBit = true ↔ em.mantissa + 1 / 2 ≤ point
  sticky_iff : em.stickyBit = true ↔ point ≠ em.mantissa ∧ point ≠ em.mantissa + 1 / 2

/-- A whole number is nearest to a number. Half way between two, it is even. -/
structure Nearest (whole : Nat) (point : ℚ) : Prop where
  ge : whole - 1 / 2 ≤ point
  le : point ≤ whole + 1 / 2
  apart : whole % 2 = 1 → whole - 1 / 2 ≠ point ∧ point ≠ whole + 1 / 2

/-- Of two nearest whole numbers, the one is not less than the other. -/
theorem Nearest.not_lt {left right : Nat} {point : ℚ} (leftNearest : Nearest left point)
    (rightNearest : Nearest right point) : ¬ left < right := by
  intro less
  have next : ((left + 1 : Nat) : ℚ) ≤ right := by exact_mod_cast less
  push_cast at next
  have le := leftNearest.le
  have ge := rightNearest.ge
  have half : point = left + 1 / 2 := by linarith
  have neighbour : (right : ℚ) = ((left + 1 : Nat) : ℚ) := by
    push_cast
    linarith
  obtain rfl : right = left + 1 := by exact_mod_cast neighbour
  rcases Nat.mod_two_eq_zero_or_one left with even | odd
  · have apart := (rightNearest.apart (by omega)).1
    apply apart
    push_cast
    linarith
  · exact (leftNearest.apart odd).2 half

/-- There is one nearest whole number. -/
theorem Nearest.unique {left right : Nat} {point : ℚ} (leftNearest : Nearest left point)
    (rightNearest : Nearest right point) : left = right :=
  Nat.le_antisymm (Nat.le_of_not_lt (rightNearest.not_lt leftNearest))
    (Nat.le_of_not_lt (leftNearest.not_lt rightNearest))

/-- A whole number locates itself. -/
theorem locates_exact (mantissa : Nat) :
    Locates (.ofMantissaAndAccuracy mantissa .exact) mantissa := by
  constructor <;> simp [ExtendedMantissa.ofMantissaAndAccuracy]

/-- A whole number and a remainder locate a quotient. -/
theorem locates_fraction {remainder divisor : Nat} (mantissa : Nat) (less : remainder < divisor) :
    Locates (.ofMantissaAndAccuracy mantissa (accuracyOfFraction remainder divisor))
      (mantissa + remainder / divisor) := by
  have positive : (0 : ℚ) < divisor := by exact_mod_cast Nat.zero_lt_of_lt less
  have nonneg : (0 : ℚ) ≤ remainder / divisor := by positivity
  have below : (remainder : ℚ) / divisor < 1 := by
    rw [div_lt_one positive]
    exact_mod_cast less
  unfold accuracyOfFraction
  split
  · rename_i zero
    simpa [zero] using locates_exact mantissa
  · rename_i nonzero
    have inexact : (0 : ℚ) < remainder / divisor := by
      have numerator : (0 : ℚ) < remainder := by exact_mod_cast Nat.pos_of_ne_zero nonzero
      positivity
    rcases order : compare (2 * remainder) divisor with _ | _ | _
    · have half : (remainder : ℚ) / divisor < 1 / 2 := by
        rw [div_lt_div_iff₀ positive (by norm_num)]
        have twice := Nat.compare_eq_lt.1 order
        rw [mul_comm, one_mul]
        exact_mod_cast twice
      constructor <;> simp only [ExtendedMantissa.ofMantissaAndAccuracy] <;> grind
    · have half : (remainder : ℚ) / divisor = 1 / 2 := by
        rw [div_eq_div_iff positive.ne' (by norm_num)]
        have twice := Nat.compare_eq_eq.1 order
        rw [mul_comm, one_mul]
        exact_mod_cast twice
      constructor <;> simp only [ExtendedMantissa.ofMantissaAndAccuracy] <;> grind
    · have half : (1 : ℚ) / 2 < remainder / divisor := by
        rw [div_lt_div_iff₀ (by norm_num) positive]
        have twice := Nat.compare_eq_gt.1 order
        rw [mul_comm (remainder : ℚ), one_mul]
        exact_mod_cast twice
      constructor <;> simp only [ExtendedMantissa.ofMantissaAndAccuracy] <;> grind

/-- Shifting right halves the number that is located. -/
theorem Locates.shiftRightOne {em : ExtendedMantissa} {point : ℚ} (locates : Locates em point) :
    Locates em.shiftRightOne (point / 2) := by
  obtain ⟨mantissa, roundBit, stickyBit⟩ := em
  obtain ⟨le, lt, round_iff, sticky_iff⟩ := locates
  have parts : ((mantissa / 2 : Nat) : ℚ) * 2 + (mantissa % 2 : Nat) = mantissa := by
    exact_mod_cast Nat.div_add_mod' mantissa 2
  dsimp only at le lt round_iff sticky_iff
  rcases Nat.mod_two_eq_zero_or_one mantissa with even | odd
  · rw [even] at parts
    constructor <;> simp only [ExtendedMantissa.shiftRightOne, even] <;> grind
  · rw [odd] at parts
    constructor <;> simp only [ExtendedMantissa.shiftRightOne, odd] <;> grind

/-- Shifting right divides the number that is located by a power of two. -/
theorem Locates.shiftRight {em : ExtendedMantissa} {point : ℚ} (locates : Locates em point)
    (count : Nat) : Locates (em >>> count) (point / 2 ^ count) := by
  change Locates (count.repeat ExtendedMantissa.shiftRightOne em) _
  induction count with
  | zero => simpa [Nat.repeat] using locates
  | succ count hypothesis =>
    rw [pow_succ, ← div_div]
    exact hypothesis.shiftRightOne

/-- Rounding a mantissa gives the nearest whole number. -/
theorem Locates.nearest {em : ExtendedMantissa} {point : ℚ} (locates : Locates em point) :
    Nearest em.roundedMantissa point := by
  obtain ⟨mantissa, roundBit, stickyBit⟩ := em
  obtain ⟨le, lt, round_iff, sticky_iff⟩ := locates
  dsimp only at le lt round_iff sticky_iff
  unfold ExtendedMantissa.roundedMantissa ExtendedMantissa.accuracy
  cases roundBit <;> cases stickyBit <;> simp only [Accuracy.roundToNearestEven]
  · constructor <;> grind
  · constructor <;> grind
  · rcases Nat.mod_two_eq_zero_or_one mantissa with even | odd
    · rw [even]
      constructor <;> grind
    · rw [odd]
      constructor <;> push_cast <;> grind
  · constructor <;> push_cast <;> grind

/-! ## Rounding into an interval -/

variable {parts : Scaled} {point : ℚ}

/-- Where a number of a rounding interval lies, in units of the last bit. -/
theorem quotient_of_contains (inside : (RoundingInterval.of parts).Contains point) :
    parts.significand - (RoundingInterval.quartersBelow parts : ℚ) / 4 ≤ point / 2 ^ parts.exponent
      ∧ point / 2 ^ parts.exponent ≤ parts.significand + 1 / 2
      ∧ (parts.significand % 2 = 1 → parts.significand - 1 / 2 ≠ point / 2 ^ parts.exponent
        ∧ point / 2 ^ parts.exponent ≠ parts.significand + 1 / 2) := by
  obtain ⟨low_le, le_high, apart⟩ := (RoundingInterval.of_contains_iff point).1 inside
  have unit_pos : (0 : ℚ) < 2 ^ parts.exponent := by positivity
  have quarter : (2 : ℚ) ^ (parts.exponent - 2) = 2 ^ parts.exponent / 4 := by
    rw [zpow_sub₀ two_ne_zero]
    norm_num
  have point_eq : point = point / 2 ^ parts.exponent * 2 ^ parts.exponent := by field_simp
  generalize point / 2 ^ parts.exponent = place at point_eq ⊢
  subst point_eq
  rw [quarter] at low_le le_high apart
  have truncated : 4 * (parts.significand : ℚ) - RoundingInterval.quartersBelow parts
      ≤ (4 * parts.significand - RoundingInterval.quartersBelow parts : Nat) := by
    rw [sub_le_iff_le_add]
    exact_mod_cast Nat.sub_le_iff_le_add.1 (Nat.le_refl _)
  refine ⟨?_, ?_, fun odd => ⟨?_, ?_⟩⟩
  · refine le_of_mul_le_mul_right (le_trans ?_ low_le) unit_pos
    rw [mul_div_assoc', le_div_iff₀ (by norm_num)]
    nlinarith
  · refine le_of_mul_le_mul_right (le_trans le_high ?_) unit_pos
    push_cast
    linarith
  · have below : RoundingInterval.quartersBelow parts = 2 := by
      unfold RoundingInterval.quartersBelow
      refine if_neg fun atLeading => ?_
      rw [atLeading.1] at odd
      contradiction
    rintro rfl
    apply (apart odd).1
    rw [below, Nat.cast_sub (by omega)]
    push_cast
    ring
  · rintro rfl
    apply (apart odd).2
    push_cast
    ring

/-- At most half a place below a double is rounded to it. -/
theorem quartersBelow_le (parts : Scaled) :
    (RoundingInterval.quartersBelow parts : ℚ) ≤ 2 := by
  unfold RoundingInterval.quartersBelow
  split <;> norm_num

/-- A quarter of a place below a power of two is rounded to it. -/
theorem quartersBelow_eq_one (atLeading : parts.significand = leadingBit)
    (above : leastExponent < parts.exponent) :
    (RoundingInterval.quartersBelow parts : ℚ) = 1 := by
  unfold RoundingInterval.quartersBelow
  rw [if_pos ⟨atLeading, above⟩]
  norm_num

/-- The significand of a double is nearest to every number of its rounding interval. -/
theorem nearest_of_contains (inside : (RoundingInterval.of parts).Contains point) :
    Nearest parts.significand (point / 2 ^ parts.exponent) := by
  obtain ⟨ge, le, apart⟩ := quotient_of_contains inside
  refine ⟨le_trans ?_ ge, le, apart⟩
  have quarters := quartersBelow_le parts
  linarith

/-- The exponent that the last bit of a number gets: the number has at most 53 bits above it, and
exactly so many unless the exponent is the least one. -/
structure Places (exponent : Int) (point : ℚ) : Prop where
  ge : leastExponent ≤ exponent
  lt : point < 2 ^ (exponent + 53)
  leading : leastExponent < exponent → 2 ^ (exponent + 52) ≤ point

/-- The exponent that rounding gives to a mantissa. -/
abbrev target (mantissa : Nat) (exponent : Int) : Int :=
  Format.binary64.targetExponent (totalExponent mantissa exponent)

/-- The exponent that rounding gives to a mantissa, in numbers. -/
theorem target_eq (mantissa : Nat) (exponent : Int) :
    target mantissa exponent = max (mantissa.log2 + exponent - 52) leastExponent := by
  have bits : Format.binary64.mantissaBits = 53 := rfl
  have least : Format.binary64.minExponent = leastExponent := rfl
  unfold target Format.targetExponent totalExponent
  rw [bits, least]
  push_cast
  congr 1
  omega

/-- The mantissa of an extended one is what it was made from. -/
theorem mantissa_ofMantissaAndAccuracy (mantissa : Nat) (accuracy : Accuracy) :
    (ExtendedMantissa.ofMantissaAndAccuracy mantissa accuracy).mantissa = mantissa := by
  rcases accuracy with _ | (_ | _ | _) <;> rfl

/-- Rounding gives a number the exponent of its last bit. -/
theorem places_target {mantissa : Nat} {exponent : Int} {accuracy : Accuracy}
    (locates : Locates (.ofMantissaAndAccuracy mantissa accuracy) (point / 2 ^ exponent))
    (enough : exponent ≤ target mantissa exponent) :
    Places (target mantissa exponent) point := by
  have unit_pos : (0 : ℚ) < 2 ^ exponent := by positivity
  have le := locates.le
  have lt := locates.lt
  rw [mantissa_ofMantissaAndAccuracy] at le lt
  rw [le_div_iff₀ unit_pos] at le
  rw [div_lt_iff₀ unit_pos] at lt
  have target_eq := target_eq mantissa exponent
  refine ⟨by omega, ?_, ?_⟩
  · have bits : mantissa + 1 ≤ 2 ^ (mantissa.log2 + 1) := Nat.lt_log2_self
    calc point < (mantissa + 1) * 2 ^ exponent := lt
      _ ≤ (2 ^ (mantissa.log2 + 1)) * 2 ^ exponent := by gcongr; exact_mod_cast bits
      _ = 2 ^ ((mantissa.log2 + 1 : Nat) + exponent) := by
        rw [zpow_add₀ two_ne_zero, zpow_natCast]
      _ ≤ 2 ^ (target mantissa exponent + 53) := by
        apply zpow_le_zpow_right₀ one_le_two
        push_cast
        omega
  · intro above
    have nonzero : mantissa ≠ 0 := by
      rintro rfl
      rw [Nat.log2_zero] at target_eq
      omega
    have bits : 2 ^ mantissa.log2 ≤ mantissa := Nat.log2_self_le nonzero
    calc (2 : ℚ) ^ (target mantissa exponent + 52) = 2 ^ ((mantissa.log2 : Nat) + exponent) := by
          congr 1
          omega
      _ = (2 ^ mantissa.log2) * 2 ^ exponent := by rw [zpow_add₀ two_ne_zero, zpow_natCast]
      _ ≤ mantissa * 2 ^ exponent := by gcongr; exact_mod_cast bits
      _ ≤ point := le

/-- Powers of two that are whole numbers of places apart. -/
theorem two_zpow_add (exponent : Int) (count : Nat) :
    (2 : ℚ) ^ (exponent + count) = 2 ^ count * 2 ^ exponent := by
  rw [zpow_add₀ two_ne_zero, zpow_natCast, mul_comm]

/-- A number has no greater exponent than the double in whose interval it lies. -/
theorem Places.exponent_le {exponent : Int} (places : Places exponent point)
    (canonical : parts.Canonical) (inside : (RoundingInterval.of parts).Contains point) :
    exponent ≤ parts.exponent := by
  by_cases above : leastExponent < exponent
  · obtain ⟨-, le, -⟩ := quotient_of_contains inside
    have unit_pos : (0 : ℚ) < 2 ^ parts.exponent := by positivity
    rw [div_le_iff₀ unit_pos] at le
    have bounded : (parts.significand : ℚ) + 1 ≤ 2 ^ 53 := by
      have := canonical.significand_lt
      simp only [leadingBit] at this
      exact_mod_cast this
    have below : point < 2 ^ (parts.exponent + 53 : Int) := by
      rw [show (53 : Int) = (53 : Nat) by rfl, two_zpow_add]
      nlinarith
    have powers := (zpow_lt_zpow_iff_right₀ one_lt_two).1 ((places.leading above).trans_lt below)
    omega
  · have := canonical.exponent_ge
    omega

/-- A number with a smaller exponent than the double in whose interval it lies is just below a power
of two. -/
theorem Places.significand_eq {exponent : Int} (places : Places exponent point)
    (canonical : parts.Canonical) (inside : (RoundingInterval.of parts).Contains point)
    (less : exponent < parts.exponent) : parts.significand = leadingBit := by
  obtain ⟨ge, -, -⟩ := quotient_of_contains inside
  have unit_pos : (0 : ℚ) < 2 ^ parts.exponent := by positivity
  rw [le_div_iff₀ unit_pos] at ge
  have leading := canonical.leading (places.ge.trans_lt less)
  by_contra different
  have more : (2 : ℚ) ^ 52 + 1 ≤ parts.significand := by
    have : leadingBit + 1 ≤ parts.significand := by omega
    simp only [leadingBit] at this
    exact_mod_cast this
  have quarters := quartersBelow_le parts
  have beyond : 2 ^ (parts.exponent + 52 : Int) < point := by
    rw [show (52 : Int) = (52 : Nat) by rfl, two_zpow_add]
    nlinarith
  have powers := (zpow_lt_zpow_iff_right₀ one_lt_two).1 (beyond.trans places.lt)
  omega

/-- A number has the exponent of the double in whose interval it lies, or it is just below a power
of two and has the exponent before. -/
theorem Places.cases {exponent : Int} (places : Places exponent point)
    (canonical : parts.Canonical) (inside : (RoundingInterval.of parts).Contains point) :
    exponent = parts.exponent
      ∨ exponent = parts.exponent - 1 ∧ parts.significand = leadingBit
        ∧ leastExponent < parts.exponent := by
  rcases (places.exponent_le canonical inside).eq_or_lt with same | less
  · exact .inl same
  · have above : leastExponent < parts.exponent := places.ge.trans_lt less
    have atLeading := places.significand_eq canonical inside less
    obtain ⟨ge, -, -⟩ := quotient_of_contains inside
    have unit_pos : (0 : ℚ) < 2 ^ parts.exponent := by positivity
    rw [le_div_iff₀ unit_pos, quartersBelow_eq_one atLeading above, atLeading] at ge
    have beyond : 2 ^ (parts.exponent + 51 : Int) < point := by
      rw [show (51 : Int) = (51 : Nat) by rfl, two_zpow_add]
      simp only [leadingBit] at ge
      push_cast at ge
      nlinarith
    have powers := (zpow_lt_zpow_iff_right₀ one_lt_two).1 (beyond.trans places.lt)
    exact .inr ⟨by omega, atLeading, above⟩

/-- Shifting to the exponent that rounding gives. -/
theorem shiftToTargetExponent_eq {mantissa : Nat} {exponent : Int} (accuracy : Accuracy)
    (enough : exponent ≤ target mantissa exponent) :
    shiftToTargetExponent .binary64 mantissa exponent accuracy
      = (ExtendedMantissa.ofMantissaAndAccuracy mantissa accuracy
          >>> (target mantissa exponent - exponent).toNat, target mantissa exponent) := by
  have reached : exponent + (target mantissa exponent - exponent).toNat
      = target mantissa exponent := by omega
  simp only [shiftToTargetExponent, shiftToExponent, reached]

/-- The parts of a double have the exponent that rounding gives. -/
theorem target_canonical (canonical : parts.Canonical) (positive : 0 < parts.significand) :
    target parts.significand parts.exponent = parts.exponent := by
  have bits : parts.significand.log2 < 53 := by
    rw [Nat.log2_lt positive.ne']
    exact canonical.significand_lt
  have exponent_ge := canonical.exponent_ge
  rw [target_eq]
  by_cases above : leastExponent < parts.exponent
  · have leading : 52 ≤ parts.significand.log2 := by
      rw [Nat.le_log2 positive.ne']
      exact canonical.leading above
    omega
  · omega

/-- The parts of a double are not shifted. -/
theorem shiftToTargetExponent_canonical (canonical : parts.Canonical)
    (positive : 0 < parts.significand) :
    shiftToTargetExponent .binary64 parts.significand parts.exponent .exact
      = (⟨parts.significand, false, false⟩, parts.exponent) := by
  have same := target_canonical canonical positive
  rw [shiftToTargetExponent_eq .exact same.ge, same, Int.sub_self]
  rfl

/-- One bit more than a significand has is shifted out. -/
theorem shiftToTargetExponent_overflow {exponent : Int} (above : leastExponent < exponent) :
    shiftToTargetExponent .binary64 (2 * leadingBit) (exponent - 1) .exact
      = (⟨leadingBit, false, false⟩, exponent) := by
  have bits : (2 * leadingBit).log2 = 53 := by decide +kernel
  have next : target (2 * leadingBit) (exponent - 1) = exponent := by
    rw [target_eq, bits]
    push_cast
    omega
  have one : (exponent - (exponent - 1)).toNat = 1 := by omega
  rw [shiftToTargetExponent_eq .exact (by omega), next, one]
  rfl

/-- Rounding shifts twice: first to round the mantissa, then because that may have added a bit. -/
theorem roundWithAccuracy_of_shifts {mantissa significand : Nat} {exponent place last : Int}
    {accuracy : Accuracy} {em : ExtendedMantissa}
    (first : shiftToTargetExponent .binary64 mantissa exponent accuracy = (em, place))
    (second : shiftToTargetExponent .binary64 em.roundedMantissa place .exact
      = (⟨significand, false, false⟩, last))
    (positive : 0 < significand) (sign : Sign) :
    roundWithAccuracy .binary64 sign mantissa exponent accuracy
      = .finite sign significand last positive := by
  unfold roundWithAccuracy
  rw [first]
  dsimp only
  rw [second]
  exact dif_neg positive.ne'

/-- Just below a power of two, the nearest significand has one bit more than others. -/
theorem nearest_of_overflow (inside : (RoundingInterval.of parts).Contains point)
    (atLeading : parts.significand = leadingBit) (above : leastExponent < parts.exponent)
    (places : Places (parts.exponent - 1) point) :
    Nearest (2 * leadingBit) (point / 2 ^ (parts.exponent - 1)) := by
  obtain ⟨ge, -, -⟩ := quotient_of_contains inside
  have quarters := quartersBelow_eq_one atLeading above
  have unit_pos : (0 : ℚ) < 2 ^ (parts.exponent - 1) := by positivity
  have unit : (2 : ℚ) ^ parts.exponent = 2 * 2 ^ (parts.exponent - 1) := by
    rw [← zpow_one_add₀ two_ne_zero]
    congr 1
    omega
  have below : point / 2 ^ (parts.exponent - 1) < 2 ^ 53 := by
    have lt := places.lt
    rw [zpow_add₀ two_ne_zero] at lt
    rw [div_lt_iff₀ unit_pos, mul_comm]
    exact_mod_cast lt
  rw [atLeading, quarters, unit, ← div_div, div_right_comm] at ge
  refine ⟨?_, ?_, fun odd => absurd odd (by simp)⟩
  · simp only [leadingBit] at ge ⊢
    push_cast at ge ⊢
    linarith
  · simp only [leadingBit] at ge ⊢
    push_cast at ge ⊢
    linarith

/-- A number in the rounding interval of a double is rounded to that double. -/
theorem roundWithAccuracy_eq (canonical : parts.Canonical) (positive : 0 < parts.significand)
    (inside : (RoundingInterval.of parts).Contains point) {mantissa : Nat} {exponent : Int}
    {accuracy : Accuracy}
    (locates : Locates (.ofMantissaAndAccuracy mantissa accuracy) (point / 2 ^ exponent))
    (enough : exponent ≤ target mantissa exponent) (sign : Sign) :
    roundWithAccuracy .binary64 sign mantissa exponent accuracy
      = .finite sign parts.significand parts.exponent positive := by
  have places := places_target locates enough
  have shifted := locates.shiftRight (target mantissa exponent - exponent).toNat
  have units : (2 : ℚ) ^ exponent * 2 ^ (target mantissa exponent - exponent).toNat
      = 2 ^ target mantissa exponent := by
    rw [← zpow_natCast, ← zpow_add₀ two_ne_zero]
    congr 1
    omega
  rw [div_div, units] at shifted
  have nearest := shifted.nearest
  refine roundWithAccuracy_of_shifts (shiftToTargetExponent_eq accuracy enough) ?_ positive sign
  generalize ExtendedMantissa.roundedMantissa _ = rounded at nearest ⊢
  rcases places.cases canonical inside with same | ⟨before, atLeading, above⟩
  · rw [same] at nearest
    rw [nearest.unique (nearest_of_contains inside), same]
    exact shiftToTargetExponent_canonical canonical positive
  · rw [before] at places nearest
    rw [nearest.unique (nearest_of_overflow inside atLeading above places), before, atLeading]
    exact shiftToTargetExponent_overflow above

end Workings.Number
