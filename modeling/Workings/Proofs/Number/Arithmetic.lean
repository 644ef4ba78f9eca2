import Workings.Proofs.Number.Rounding

/-!
# Doubles from decimals

A decimal that lies in the rounding interval of a double is converted to that double: by one product
or quotient of doubles where the digits and the power of ten are exact, and by rounding elsewhere.
-/

namespace Workings.Number

open Float.Model Float.Model.UnpackedFloat

variable {parts : Scaled} {point : ℚ}

/-! ## Packing -/

/-- The bits of a sign, an exponent and a fraction stand one after the other. -/
theorem toNat_packComponents (sign : Sign) (exponent : BitVec 11) (fraction : BitVec 52) :
    (packComponents .binary64 sign exponent fraction).toNat
      = (sign.toBitVec.toNat * 2048 + exponent.toNat) * leadingBit + fraction.toNat := by
  unfold packComponents
  rw [BitVec.toNat_append, BitVec.toNat_append, ← Nat.shiftLeft_add_eq_or_of_lt fraction.isLt,
    ← Nat.shiftLeft_add_eq_or_of_lt exponent.isLt, Nat.shiftLeft_eq, Nat.shiftLeft_eq]
  rfl

/-- The parts of a double whose bits are a sign, an exponent and a fraction. -/
theorem decode?_of_bits {value : Float} {negative : Bool} {biased fraction : Nat}
    (bits_eq : value.toBits.toNat
      = ((signOf negative).toBitVec.toNat * 2048 + biased) * leadingBit + fraction)
    (finite : biased < 2047) (isFraction : fraction < leadingBit) :
    decode? value = some (if biased = 0 then ⟨negative, fraction, leastExponent⟩
      else ⟨negative, leadingBit + fraction, (biased : Int) - 1075⟩) := by
  have sign_lt : (signOf negative).toBitVec.toNat < 2 := (signOf negative).toBitVec.isLt
  have sign_eq : ((signOf negative).toBitVec.toNat == 1) = negative := by cases negative <;> rfl
  simp only [decode?, bits_eq]
  generalize (signOf negative).toBitVec.toNat = sign at *
  have fraction_eq : ((sign * 2048 + biased) * leadingBit + fraction) % leadingBit = fraction := by
    rw [Nat.mul_comm, Nat.mul_add_mod, Nat.mod_eq_of_lt isFraction]
  have above : ((sign * 2048 + biased) * leadingBit + fraction) / leadingBit
      = sign * 2048 + biased := by
    simp only [leadingBit] at *
    omega
  have biased_eq : (sign * 2048 + biased) % 2048 = biased := by omega
  have negative_eq : ((sign * 2048 + biased) * leadingBit + fraction) / signBit = sign := by
    simp only [leadingBit, signBit] at *
    omega
  rw [fraction_eq, above, biased_eq, negative_eq, sign_eq, if_neg finite.ne]
  split <;> rfl

/-- The double with the given parts. -/
def packed (parts : Scaled) (positive : 0 < parts.significand) : Float :=
  .ofModel (.pack (.finite (signOf parts.negative) parts.significand parts.exponent positive))

/-- The bits of a double that is packed. -/
theorem toBits_packed (canonical : parts.Canonical) (positive : 0 < parts.significand) :
    (packed parts positive).toBits.toNat
      = ((signOf parts.negative).toBitVec.toNat * 2048
        + if leadingBit ≤ parts.significand then (parts.exponent + 1075).toNat else 0) * leadingBit
        + parts.significand % leadingBit := by
  obtain ⟨exponent_ge, exponent_le, significand_lt, leading⟩ := canonical
  have bits_eq : (packed parts positive).toBits.toNat
      = (pack .binary64 (.finite (signOf parts.negative) parts.significand parts.exponent
          positive)).toNat := rfl
  have biased_eq : (parts.exponent + Format.binary64.exponentBias
      + Format.binary64.mantissaBitsWithoutImplicit).toNat = (parts.exponent + 1075).toNat := by
    congr 1
    simp only [Format.exponentBias]
    omega
  have finite : ¬ 2 ^ Format.binary64.exponentBits ≤ (parts.exponent + 1075).toNat + 1 := by
    simp only
    omega
  rw [bits_eq]
  delta UnpackedFloat.pack
  dsimp only
  rw [biased_eq, if_neg finite]
  by_cases normal : leadingBit ≤ parts.significand
  · have bits : parts.significand.log2 + 1 = Format.binary64.mantissaBits := by
      have most : parts.significand.log2 < 53 := (Nat.log2_lt positive.ne').2 significand_lt
      have least : 52 ≤ parts.significand.log2 := (Nat.le_log2 positive.ne').2 normal
      have bits_eq : Format.binary64.mantissaBits = 53 := rfl
      omega
    have small : (parts.exponent + 1075).toNat < 2 ^ 11 := by omega
    rw [if_pos bits, if_pos normal, toNat_packComponents, BitVec.toNat_ofNat, BitVec.toNat_ofNat,
      Nat.mod_eq_of_lt small]
    rfl
  · have bits : ¬ parts.significand.log2 + 1 = Format.binary64.mantissaBits := by
      have most : parts.significand.log2 < 52 :=
        (Nat.log2_lt positive.ne').2 (Nat.lt_of_not_le normal)
      have bits_eq : Format.binary64.mantissaBits = 53 := rfl
      omega
    rw [if_neg bits, if_neg normal, toNat_packComponents, BitVec.toNat_ofNat]
    rfl

/-- A double that is packed has the parts it was packed from. -/
theorem decode?_packed (canonical : parts.Canonical) (positive : 0 < parts.significand) :
    decode? (packed parts positive) = some parts := by
  obtain ⟨exponent_ge, exponent_le, significand_lt, leading⟩ := id canonical
  have fraction_lt := Nat.mod_lt parts.significand (show 0 < leadingBit by decide)
  have decoded := decode?_of_bits (toBits_packed canonical positive)
    (by simp only [leastExponent] at *; split <;> omega) fraction_lt
  rw [decoded]
  by_cases normal : leadingBit ≤ parts.significand
  · have nonzero : (parts.exponent + 1075).toNat ≠ 0 := by
      simp only [leastExponent] at exponent_ge
      omega
    rw [if_pos normal, if_neg nonzero]
    cases parts
    simp only [leadingBit, leastExponent, Option.some.injEq, Scaled.mk.injEq, true_and] at *
    omega
  · rw [if_neg normal, if_pos rfl]
    cases parts
    simp only [leadingBit, leastExponent, Option.some.injEq, Scaled.mk.injEq, true_and] at *
    omega

/-- A double that is packed is unpacked to what it was packed from. -/
theorem unpack_packed (canonical : parts.Canonical) (positive : 0 < parts.significand) :
    (packed parts positive).toModel.unpack
      = .finite (signOf parts.negative) parts.significand parts.exponent positive := by
  rw [unpack_eq, decode?_packed canonical positive]
  exact dif_pos positive

/-! ## Products and quotients -/

/-- A product in the rounding interval of a double is rounded to that double. -/
theorem mul_eq (canonical : parts.Canonical) (positive : 0 < parts.significand)
    {left right : Nat} {leftExponent rightExponent : Int} (leftPositive : 0 < left)
    (rightPositive : 0 < right) (enough : leadingBit ≤ left)
    (inside : (RoundingInterval.of parts).Contains
      ((left * 2 ^ leftExponent) * (right * 2 ^ rightExponent))) :
    mul .binary64 (.finite .positive left leftExponent leftPositive)
        (.finite .positive right rightExponent rightPositive)
      = .finite .positive parts.significand parts.exponent positive := by
  have locates : Locates (.ofMantissaAndAccuracy (left * right) .exact)
      ((left * 2 ^ leftExponent) * (right * 2 ^ rightExponent)
        / 2 ^ (leftExponent + rightExponent)) := by
    convert locates_exact (left * right) using 1
    rw [zpow_add₀ two_ne_zero]
    push_cast
    field_simp
  have bits : 52 ≤ (left * right).log2 := by
    rw [Nat.le_log2 (Nat.mul_pos leftPositive rightPositive).ne']
    exact enough.trans (Nat.le_mul_of_pos_right left rightPositive)
  have reached : leftExponent + rightExponent
      ≤ target (left * right) (leftExponent + rightExponent) := by
    rw [target_eq]
    omega
  exact roundWithAccuracy_eq canonical positive inside locates reached .positive

/-- The quotient of two mantissas has enough bits if the exponent is low enough. -/
theorem le_log2_div {left right : Nat} (leftPositive : 0 < left) (rightPositive : 0 < right)
    {count : Nat} (enough : right.log2 + 53 ≤ left.log2 + count) :
    52 ≤ (left * 2 ^ count / right).log2 := by
  have quotient : 2 ^ 52 ≤ left * 2 ^ count / right := by
    rw [Nat.le_div_iff_mul_le rightPositive]
    calc 2 ^ 52 * right ≤ 2 ^ 52 * 2 ^ (right.log2 + 1) :=
          Nat.mul_le_mul_left _ Nat.lt_log2_self.le
      _ = 2 ^ (right.log2 + 53) := by rw [← Nat.pow_add]; congr 1; omega
      _ ≤ 2 ^ (left.log2 + count) := Nat.pow_le_pow_right (by decide) enough
      _ = 2 ^ left.log2 * 2 ^ count := Nat.pow_add _ _ _
      _ ≤ left * 2 ^ count := Nat.mul_le_mul_right _ (Nat.log2_self_le leftPositive.ne')
  have nonzero : left * 2 ^ count / right ≠ 0 := by omega
  exact (Nat.le_log2 nonzero).2 quotient

/-- A quotient in the rounding interval of a double is rounded to that double. -/
theorem div_eq (canonical : parts.Canonical) (positive : 0 < parts.significand)
    {left right : Nat} {leftExponent rightExponent : Int} (leftPositive : 0 < left)
    (rightPositive : 0 < right)
    (inside : (RoundingInterval.of parts).Contains
      ((left * 2 ^ leftExponent) / (right * 2 ^ rightExponent))) :
    div .binary64 (.finite .positive left leftExponent leftPositive)
        (.finite .positive right rightExponent rightPositive)
      = .finite .positive parts.significand parts.exponent positive := by
  obtain ⟨place, place_eq⟩ : ∃ place, place = min (leftExponent - rightExponent)
      (Format.binary64.targetExponent
        (totalExponent left leftExponent - totalExponent right rightExponent)) := ⟨_, rfl⟩
  obtain ⟨count, count_eq⟩ : ∃ count, count = (leftExponent - rightExponent - place).toNat :=
    ⟨_, rfl⟩
  have core : divCore .binary64 left leftExponent right rightExponent
      = (left * 2 ^ count / right, place,
        accuracyOfFraction (left * 2 ^ count % right) right) := by
    simp only [divCore, ← place_eq, ← count_eq, Nat.shiftLeft_eq]
  have place_le : place ≤ leftExponent - rightExponent := by
    rw [place_eq]
    exact min_le_left _ _
  have locates : Locates (.ofMantissaAndAccuracy (left * 2 ^ count / right)
      (accuracyOfFraction (left * 2 ^ count % right) right))
      ((left * 2 ^ leftExponent) / (right * 2 ^ rightExponent) / 2 ^ place) := by
    convert locates_fraction (left * 2 ^ count / right) (Nat.mod_lt _ rightPositive) using 1
    have nonzero : (right : ℚ) ≠ 0 := by exact_mod_cast rightPositive.ne'
    have division : ((left * 2 ^ count / right : Nat) : ℚ) * right
        + (left * 2 ^ count % right : Nat) = left * 2 ^ count := by
      exact_mod_cast Nat.div_add_mod' (left * 2 ^ count) right
    have units : (2 : ℚ) ^ leftExponent = 2 ^ count * 2 ^ rightExponent * 2 ^ place := by
      rw [← zpow_natCast, ← zpow_add₀ two_ne_zero, ← zpow_add₀ two_ne_zero]
      congr 1
      omega
    rw [units]
    field_simp
    linarith
  have enough : place ≤ target (left * 2 ^ count / right) place := by
    have bits : Format.binary64.mantissaBits = 53 := rfl
    have least : Format.binary64.minExponent = leastExponent := rfl
    simp only [Format.targetExponent, totalExponent, bits, least] at place_eq
    rw [target_eq]
    by_cases low : place ≤ leastExponent
    · omega
    · have long : right.log2 + 53 ≤ left.log2 + count := by omega
      have quotient := le_log2_div leftPositive rightPositive long
      omega
  have rounded := roundWithAccuracy_eq canonical positive inside locates enough .positive
  unfold UnpackedFloat.div
  dsimp only
  rw [core]
  exact rounded

/-! ## Whole numbers and powers of ten -/

/-- The parts of a whole number that is not zero. -/
def wholeParts (count : Nat) : Scaled :=
  ⟨false, shift count (52 - count.log2), count.log2 - 52⟩

/-- The powers of ten up to the twenty-second are doubles. -/
theorem decode?_powerOfTen (exponent : Fin 23) :
    decode? Float.exactlyRepresentablePowersOfTen[exponent.val]
      = some (wholeParts (10 ^ exponent.val)) := by
  revert exponent
  decide +kernel

/-- The parts of a whole number have its value. -/
def IsWhole (count : Nat) : Prop :=
  0 < (wholeParts count).significand
    ∧ ((wholeParts count).significand : ℚ) * 2 ^ (wholeParts count).exponent = count

/-- The parts of a whole number have its value if they have it in whole numbers. -/
theorem isWhole_of_eq {count : Nat} (positive : 0 < count)
    (same : (wholeParts count).significand * 2 ^ count.log2 = count * 2 ^ 52) : IsWhole count := by
  have exponent_eq : (wholeParts count).exponent = count.log2 - (52 : Nat) := rfl
  constructor
  · refine Nat.pos_of_ne_zero fun zero => ?_
    rw [zero, Nat.zero_mul] at same
    omega
  · rw [exponent_eq, zpow_sub₀ two_ne_zero, zpow_natCast, zpow_natCast, mul_div_assoc',
      div_eq_iff (by positivity)]
    exact_mod_cast same

/-- The parts of powers of ten have their values. -/
theorem isWhole_powerOfTen (exponent : Fin 23) : IsWhole (10 ^ exponent.val) := by
  refine isWhole_of_eq (Nat.pow_pos (by decide)) ?_
  revert exponent
  decide +kernel

/-- The significand of a whole number that is not too great. -/
theorem wholeParts_of_lt {count : Nat} (positive : 0 < count) (small : count < 2 * leadingBit) :
    wholeParts count = ⟨false, count * 2 ^ (52 - count.log2), count.log2 - 52⟩ := by
  have bits : count.log2 < 53 := (Nat.log2_lt positive.ne').2 small
  have places : ((52 : Int) - count.log2).toNat = 52 - count.log2 := by omega
  simp only [wholeParts, shift, power, places]
  rw [if_pos (by omega)]
  rfl

/-- Whole numbers that are not too great have parts. -/
theorem isWhole_of_lt {count : Nat} (positive : 0 < count) (small : count < 2 * leadingBit) :
    IsWhole count := by
  have bits : count.log2 < 53 := (Nat.log2_lt positive.ne').2 small
  refine isWhole_of_eq positive ?_
  rw [wholeParts_of_lt positive small]
  dsimp only
  rw [Nat.mul_assoc, ← Nat.pow_add, Nat.sub_add_cancel (by omega)]

/-- The parts of a whole number that is not too great are those of a double. -/
theorem canonical_wholeParts {count : Nat} (positive : 0 < count)
    (small : count < 2 * leadingBit) : (wholeParts count).Canonical := by
  have bits : count.log2 < 53 := (Nat.log2_lt positive.ne').2 small
  have low : 2 ^ count.log2 ≤ count := Nat.log2_self_le positive.ne'
  have high : count < 2 ^ (count.log2 + 1) := Nat.lt_log2_self
  have scale_pos : 0 < 2 ^ (52 - count.log2) := by positivity
  rw [wholeParts_of_lt positive small]
  constructor <;> simp only [leastExponent]
  · omega
  · omega
  · calc count * 2 ^ (52 - count.log2) < 2 ^ (count.log2 + 1) * 2 ^ (52 - count.log2) :=
          Nat.mul_lt_mul_of_pos_right high scale_pos
      _ = 2 ^ (count.log2 + 1 + (52 - count.log2)) := (Nat.pow_add _ _ _).symm
      _ = 2 * leadingBit := by
        rw [show count.log2 + 1 + (52 - count.log2) = 53 by omega]
        rfl
  · intro _
    calc leadingBit = 2 ^ (count.log2 + (52 - count.log2)) := by
          rw [show count.log2 + (52 - count.log2) = 52 by omega]
          rfl
      _ = 2 ^ count.log2 * 2 ^ (52 - count.log2) := Nat.pow_add _ _ _
      _ ≤ count * 2 ^ (52 - count.log2) := Nat.mul_le_mul_right _ low

/-- A whole number that is not too great is rounded to its parts. -/
theorem round_whole {count : Nat} (positive : 0 < count) (small : count < 2 * leadingBit) :
    round .binary64 .positive count 0 = .finite .positive (wholeParts count).significand
      (wholeParts count).exponent (isWhole_of_lt positive small).1 := by
  have bits : count.log2 < 53 := (Nat.log2_lt positive.ne').2 small
  have canonical := canonical_wholeParts positive small
  have significand_pos := (isWhole_of_lt positive small).1
  have place : target count 0 = count.log2 - 52 := by
    rw [target_eq]
    simp only [leastExponent]
    omega
  have places : (0 - ((count.log2 : Int) - 52)).toNat = 52 - count.log2 := by omega
  have back : (0 : Int) - (52 - count.log2 : Nat) = count.log2 - 52 := by omega
  have lowered : decreaseExponent count 0 (target count 0)
      = ((wholeParts count).significand, (wholeParts count).exponent) := by
    rw [place, wholeParts_of_lt positive small]
    simp only [decreaseExponent, places, back, Nat.shiftLeft_eq]
  have rounds : round .binary64 .positive count 0
      = roundWithAccuracy .binary64 .positive (wholeParts count).significand
        (wholeParts count).exponent .exact := by
    unfold UnpackedFloat.round
    dsimp only
    rw [show decreaseExponent count 0 (Format.binary64.targetExponent (totalExponent count 0)) = _
      from lowered]
  have kept := shiftToTargetExponent_canonical canonical significand_pos
  exact rounds.trans (roundWithAccuracy_of_shifts kept kept significand_pos .positive)

/-- A whole number that is not too great is converted without rounding. -/
theorem toFloat_eq {count : Nat} (positive : 0 < count) (small : count < 2 * leadingBit) :
    count.toUInt64.toFloat = packed (wholeParts count) (isWhole_of_lt positive small).1 := by
  have toNat_eq : count.toUInt64.toNat = count := by
    simp only [leadingBit] at small
    simp only [Nat.toUInt64, UInt64.toNat_ofNat']
    omega
  have order : compare (count : Int) 0 = .gt := compare_gt_iff_gt.2 (by omega)
  have converted : ofUInt64 .binary64 count.toUInt64 = round .binary64 .positive count 0 := by
    simp only [UnpackedFloat.ofUInt64, UnpackedFloat.ofNat, UnpackedFloat.ofInt,
      UnpackedFloat.normalize, toNat_eq, order]
    rfl
  rw [round_whole positive small] at converted
  exact congrArg (fun unpacked => Float.ofModel (.pack unpacked)) converted

/-! ## Decimals -/

/-- A number in the rounding interval of a double is not infinitely great. -/
theorem lt_of_contains (canonical : parts.Canonical)
    (inside : (RoundingInterval.of parts).Contains point) : point < 2 ^ (1024 : Int) := by
  obtain ⟨-, le, -⟩ := quotient_of_contains inside
  have bounded : (parts.significand : ℚ) + 1 ≤ 2 ^ 53 := by
    have := canonical.significand_lt
    simp only [leadingBit] at this
    exact_mod_cast this
  rw [div_le_iff₀ (by positivity)] at le
  calc point ≤ (parts.significand + 1 / 2) * 2 ^ parts.exponent := le
    _ < 2 ^ 53 * 2 ^ parts.exponent := by gcongr; linarith
    _ ≤ 2 ^ 53 * 2 ^ (971 : Int) := by
      gcongr
      · exact one_le_two
      · exact canonical.exponent_le
    _ = 2 ^ (1024 : Int) := by rw [← zpow_natCast, ← zpow_add₀ two_ne_zero]; rfl

/-- A number in the rounding interval of a double that is not zero is not infinitely small. -/
theorem gt_of_contains (canonical : parts.Canonical) (positive : 0 < parts.significand)
    (inside : (RoundingInterval.of parts).Contains point) : 2 ^ (-1075 : Int) ≤ point := by
  obtain ⟨ge, -, -⟩ := quotient_of_contains inside
  have quarters : (RoundingInterval.quartersBelow parts : ℚ) ≤ 2 := by
    unfold RoundingInterval.quartersBelow
    split <;> norm_num
  have one_le : (1 : ℚ) ≤ parts.significand := by exact_mod_cast positive
  rw [le_div_iff₀ (by positivity)] at ge
  calc (2 : ℚ) ^ (-1075 : Int) = 2⁻¹ * 2 ^ (-1074 : Int) := by
        rw [← zpow_neg_one, ← zpow_add₀ two_ne_zero]
        rfl
    _ ≤ 2⁻¹ * 2 ^ parts.exponent := by
      gcongr
      · exact one_le_two
      · exact canonical.exponent_ge
    _ ≤ (parts.significand - (RoundingInterval.quartersBelow parts : ℚ) / 4) * 2 ^ parts.exponent :=
      by
        gcongr
        linarith
    _ ≤ point := ge

/-- The exponent of a decimal in the rounding interval of a double is not too great. -/
theorem exponent_lt_of_contains (canonical : parts.Canonical) {decimal : Decimal}
    (nonzero : decimal.digits ≠ 0)
    (inside : (RoundingInterval.of parts).Contains decimal.toRat) : decimal.exponent < 1024 := by
  by_contra large
  have one_le : (1 : ℚ) ≤ decimal.digits := by exact_mod_cast Nat.pos_of_ne_zero nonzero
  have finite := lt_of_contains canonical inside
  have infinite : (2 : ℚ) ^ (1024 : Int) ≤ decimal.toRat := by
    calc (2 : ℚ) ^ (1024 : Int) ≤ 2 ^ decimal.exponent :=
          zpow_le_zpow_right₀ one_le_two (by omega)
      _ ≤ 10 ^ decimal.exponent := zpow_le_zpow_left₀ (by omega) (by norm_num) (by norm_num)
      _ ≤ decimal.digits * 10 ^ decimal.exponent := le_mul_of_one_le_left (by positivity) one_le
  exact absurd finite infinite.not_gt

/-- The exponent of a decimal in the rounding interval of a double is not too small for its
digits. -/
theorem lt_exponent_of_contains (canonical : parts.Canonical) (positive : 0 < parts.significand)
    {decimal : Decimal} (inside : (RoundingInterval.of parts).Contains decimal.toRat) :
    -(2048 + decimal.digits.log2 : Int) ≤ decimal.exponent := by
  by_contra small
  have digits_lt : (decimal.digits : ℚ) ≤ 2 ^ (decimal.digits.log2 + 1) := by
    exact_mod_cast Nat.lt_log2_self.le
  have above := gt_of_contains canonical positive inside
  have below : decimal.toRat ≤ 2 ^ (-2047 : Int) := by
    calc decimal.digits * (10 : ℚ) ^ decimal.exponent
        ≤ 2 ^ (decimal.digits.log2 + 1) * 2 ^ decimal.exponent := by
          gcongr
          exact ten_zpow_le_two_zpow (by omega) (by omega)
      _ = 2 ^ ((decimal.digits.log2 + 1 : Nat) + decimal.exponent) := by
        rw [zpow_add₀ two_ne_zero, zpow_natCast]
      _ ≤ 2 ^ (-2047 : Int) := zpow_le_zpow_right₀ one_le_two (by push_cast; omega)
  have apart : (2 : ℚ) ^ (-2047 : Int) < 2 ^ (-1075 : Int) :=
    zpow_lt_zpow_right₀ one_lt_two (by decide)
  exact absurd (above.trans below) apart.not_ge

/-- The exact value of a decimal is rounded without a table of powers. -/
theorem ofScientific_eq (canonical : parts.Canonical) (positive : 0 < parts.significand)
    {decimal : Decimal} (nonzero : decimal.digits ≠ 0)
    (inside : (RoundingInterval.of parts).Contains decimal.toRat) :
    UnpackedFloat.ofScientific .binary64 decimal.digits decimal.exponent
      = .finite .positive parts.significand parts.exponent positive := by
  have low := exponent_lt_of_contains canonical nonzero inside
  have high := lt_exponent_of_contains canonical positive inside
  have bits : (2 ^ Format.binary64.exponentBits : Int) = 2048 := rfl
  unfold UnpackedFloat.ofScientific
  rw [dif_neg nonzero, bits, if_neg (by omega), if_neg (by omega)]
  by_cases nonneg : 0 ≤ decimal.exponent
  · rw [if_pos nonneg]
    obtain ⟨count, count_eq⟩ := Int.eq_ofNat_of_zero_le nonneg
    apply mul_eq canonical positive
    · rw [Nat.shiftLeft_eq]
      exact Nat.le_trans (by decide) (Nat.le_mul_of_pos_left _ (Nat.pos_of_ne_zero nonzero))
    · convert inside using 1
      have mantissaBits : Format.binary64.mantissaBits = 53 := rfl
      rw [Decimal.toRat, count_eq, mantissaBits, Nat.shiftLeft_eq, zpow_neg, zpow_natCast]
      push_cast
      field_simp
      norm_num
  · rw [if_neg nonneg]
    apply div_eq canonical positive
    convert inside using 1
    obtain ⟨count, count_eq⟩ := Int.eq_ofNat_of_zero_le (show 0 ≤ -decimal.exponent by omega)
    have exponent_eq : decimal.exponent = -(count : Int) := by omega
    rw [Decimal.toRat, exponent_eq]
    simp [div_eq_mul_inv]

/-- What a whole number that is not too great is unpacked to. -/
theorem unpack_toFloat {count : Nat} (positive : 0 < count) (small : count < 2 * leadingBit) :
    count.toUInt64.toFloat.toModel.unpack = .finite .positive (wholeParts count).significand
      (wholeParts count).exponent (isWhole_of_lt positive small).1 := by
  rw [toFloat_eq positive small]
  exact unpack_packed (canonical_wholeParts positive small) (isWhole_of_lt positive small).1

/-- What a power of ten that is looked up is unpacked to. -/
theorem unpack_powerOfTen (exponent : Fin 23) :
    Float.exactlyRepresentablePowersOfTen[exponent.val].toModel.unpack
      = .finite .positive (wholeParts (10 ^ exponent.val)).significand
        (wholeParts (10 ^ exponent.val)).exponent (isWhole_powerOfTen exponent).1 := by
  rw [unpack_eq, decode?_powerOfTen]
  exact dif_pos (isWhole_powerOfTen exponent).1

/-- A decimal in the rounding interval of a double is rounded to it where a power of ten is looked
up. -/
theorem powerOfTen_eq_packed (canonical : parts.Canonical) (positive : 0 < parts.significand)
    (unsigned : parts.negative = false) {decimal : Decimal} (nonzero : 0 < decimal.digits)
    (few : decimal.digits < 2 * leadingBit)
    (inside : (RoundingInterval.of parts).Contains decimal.toRat) {small : Bool} {size : Nat}
    (listed : size < 23) (exponent_eq : decimal.exponent = if small then -(size : Int) else size) :
    (if small then decimal.digits.toUInt64.toFloat / Float.exactlyRepresentablePowersOfTen[size]
      else decimal.digits.toUInt64.toFloat * Float.exactlyRepresentablePowersOfTen[size])
      = packed parts positive := by
  have signed : signOf parts.negative = .positive := by rw [unsigned]; rfl
  have digits := isWhole_of_lt nonzero few
  have power : IsWhole (10 ^ size) := isWhole_powerOfTen ⟨size, listed⟩
  have digitsUnpacked := unpack_toFloat nonzero few
  have powerUnpacked : Float.exactlyRepresentablePowersOfTen[size].toModel.unpack = _ :=
    unpack_powerOfTen ⟨size, listed⟩
  unfold packed
  rw [signed]
  cases small with
  | true =>
    have quotient := div_eq canonical positive digits.1 power.1 (by
      convert inside using 1
      rw [digits.2, power.2, Decimal.toRat, exponent_eq]
      simp [div_eq_mul_inv])
    rw [← digitsUnpacked, ← powerUnpacked] at quotient
    exact congrArg (fun unpacked => Float.ofModel (.pack unpacked)) quotient
  | false =>
    have enough : leadingBit ≤ (wholeParts decimal.digits).significand := by
      refine (canonical_wholeParts nonzero few).leading ?_
      simp only [wholeParts, leastExponent]
      omega
    have product := mul_eq canonical positive digits.1 power.1 enough (by
      convert inside using 1
      rw [digits.2, power.2, Decimal.toRat, exponent_eq]
      simp)
    rw [← digitsUnpacked, ← powerUnpacked] at product
    exact congrArg (fun unpacked => Float.ofModel (.pack unpacked)) product

/-- A decimal in the rounding interval of a double is rounded to it. -/
theorem ofScientific_eq_packed (canonical : parts.Canonical) (positive : 0 < parts.significand)
    (unsigned : parts.negative = false) {decimal : Decimal} (nonzero : 0 < decimal.digits)
    (inside : (RoundingInterval.of parts).Contains decimal.toRat) {small : Bool} {size : Nat}
    (exponent_eq : decimal.exponent = if small then -(size : Int) else size) :
    Float.ofScientific decimal.digits small size = packed parts positive := by
  unfold Float.ofScientific
  split
  · rename_i fast
    have few : decimal.digits < 2 * leadingBit := by
      simp only [leadingBit]
      omega
    have listed : size < 23 := by omega
    exact powerOfTen_eq_packed canonical positive unsigned nonzero few inside listed exponent_eq
  · have signed : signOf parts.negative = .positive := by rw [unsigned]; rfl
    have whole : (if small then Int.negOfNat size else Int.ofNat size) = decimal.exponent := by
      rw [exponent_eq]
      cases small
      · rfl
      · exact Int.negOfNat_eq
    unfold packed
    dsimp only
    rw [whole, signed, Float.Model.ofScientific,
      ofScientific_eq canonical positive nonzero.ne' inside]

end Workings.Number
