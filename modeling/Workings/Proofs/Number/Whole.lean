import Workings.Proofs.Number.Reading

/-!
# Whole numbers

Doubles are exact on the whole numbers up to the fifty-third power of two. A double that is one of
them is written by the digits of that number alone, because one is the coarsest step that may be
needed and no other whole number rounds to it. Digits with such a value are read as the double.
-/

namespace Workings.Number

variable {parts : Scaled} {value : Float} {count : Nat}

/-- A double without a sign that is the given whole number. -/
def Exactly (value : Float) (count : Nat) : Prop :=
  ∃ parts, decode? value = some parts ∧ parts.negative = false
    ∧ (parts.significand : ℚ) * 2 ^ parts.exponent = count

/-- A double is one whole number at most. -/
theorem Exactly.unique {other : Nat} (exactly : Exactly value count)
    (exactly' : Exactly value other) : count = other := by
  obtain ⟨parts, decoded, -, value_eq⟩ := exactly
  obtain ⟨parts', decoded', -, value_eq'⟩ := exactly'
  obtain rfl := Option.some.inj (decoded.symm.trans decoded')
  exact_mod_cast value_eq.symm.trans value_eq'

/-- A whole number is finite. -/
theorem Exactly.isFinite (exactly : Exactly value count) : value.isFinite := by
  obtain ⟨parts, decoded, -⟩ := exactly
  exact isFinite_iff.2 ⟨parts, decoded⟩

/-- Zero is a whole number. -/
theorem exactly_zero : Exactly 0 0 :=
  ⟨⟨false, 0, leastExponent⟩, by decide +kernel, rfl, by simp⟩

/-- One is a whole number. -/
theorem exactly_one : Exactly 1 1 :=
  ⟨⟨false, leadingBit, -52⟩, by decide +kernel, rfl, by norm_num [leadingBit]⟩

/-- Two is a whole number. -/
theorem exactly_two : Exactly 2 2 :=
  ⟨⟨false, leadingBit, -51⟩, by decide +kernel, rfl, by norm_num [leadingBit]⟩

/-! ## Reading digits -/

/-- The rounding interval of a double contains the double. -/
theorem contains_self (positive : 0 < parts.significand) :
    (RoundingInterval.of parts).Contains (parts.significand * 2 ^ parts.exponent) := by
  have unit_pos : (0 : ℚ) < 2 ^ (parts.exponent - 2) := by positivity
  have quarters : (parts.significand : ℚ) * 2 ^ parts.exponent
      = (4 * parts.significand : Nat) * 2 ^ (parts.exponent - 2) := by
    rw [zpow_sub₀ two_ne_zero]
    push_cast
    ring
  have low : 4 * parts.significand - RoundingInterval.quartersBelow parts
      < 4 * parts.significand := by
    unfold RoundingInterval.quartersBelow
    split <;> omega
  have below : ((4 * parts.significand - RoundingInterval.quartersBelow parts : Nat) : ℚ)
      * 2 ^ (parts.exponent - 2) < (4 * parts.significand : Nat) * 2 ^ (parts.exponent - 2) :=
    mul_lt_mul_of_pos_right (by exact_mod_cast low) unit_pos
  have above : ((4 * parts.significand : Nat) : ℚ) * 2 ^ (parts.exponent - 2)
      < (4 * parts.significand + 2 : Nat) * 2 ^ (parts.exponent - 2) :=
    mul_lt_mul_of_pos_right (by exact_mod_cast Nat.lt_add_of_pos_right (by decide)) unit_pos
  rw [quarters, RoundingInterval.of_contains_iff]
  exact ⟨below.le, above.le, fun _ => ⟨below.ne, above.ne⟩⟩

/-- Every whole number up to the fifty-third power of two has the parts of a double. -/
theorem whole_of_le (positive : 0 < count) (small : count ≤ 2 * leadingBit) :
    IsWhole count ∧ (wholeParts count).Canonical := by
  rcases Nat.lt_or_eq_of_le small with less | rfl
  · exact ⟨isWhole_of_lt positive less, canonical_wholeParts positive less⟩
  · refine ⟨isWhole_of_eq (by decide) (by decide +kernel), ?_⟩
    constructor <;> decide +kernel

/-- Digits of a value up to the fifty-third power of two are read as that value. -/
theorem exists_read? {lexeme : String} (areDigits : ∀ char ∈ lexeme.toList, char.isDigit)
    (nonempty : lexeme.toList ≠ []) (small : valueOfDigits lexeme.toList ≤ 2 * leadingBit) :
    ∃ value, read? lexeme = some value ∧ Exactly value (valueOfDigits lexeme.toList) := by
  have numeral := Numeral.whole areDigits nonempty
  generalize valueOfDigits lexeme.toList = count at *
  rcases Nat.eq_zero_or_pos count with rfl | positive
  · obtain ⟨digits, -, -, reads⟩ := numeral.readDecimal?_eq
    refine ⟨0, ?_, exactly_zero⟩
    rw [numeral.read?_eq, reads, ofDecimal, if_pos rfl]
  · obtain ⟨whole, canonical⟩ := whole_of_le positive small
    have decoded := decode?_packed canonical whole.1
    have inside : (RoundingInterval.of (wholeParts count)).Contains
        (Decimal.mk count 0).toRat := by
      have self := contains_self whole.1
      rw [whole.2] at self
      simpa [Decimal.toRat] using self
    exact ⟨_, numeral.read?_eq_some decoded rfl whole.1 inside, _, decoded, rfl, whole.2⟩

/-! ## Writing digits -/

namespace RoundingInterval

variable {interval : RoundingInterval} {exponent : Int}

/-- A grid that has a point in the interval is one on which a point is found. -/
theorem pointOn?_isSome_of_contains (proper : interval.Proper) {digits : Nat}
    (inside : interval.Contains (Decimal.mk digits exponent).toRat) :
    (interval.pointOn? exponent).isSome := by
  have scale_pos := power_pos 10 (by decide) (-exponent)
  have positive : (0 : ℚ) < power 10 (-exponent) := by exact_mod_cast scale_pos
  have step_pos : 0 < interval.step exponent :=
    Nat.mul_pos proper.denominator_pos (power_pos _ (by decide) exponent)
  have scaled := toRat_mul interval digits exponent
  obtain ⟨low_le, le_high, ends⟩ := inside
  have low_le : interval.low * power 10 (-exponent) ≤ digits * interval.step exponent := by
    rw [← mul_le_mul_iff_of_pos_right positive, scaled] at low_le
    exact_mod_cast low_le
  have le_high : digits * interval.step exponent ≤ interval.high * power 10 (-exponent) := by
    rw [← mul_le_mul_iff_of_pos_right positive, scaled] at le_high
    exact_mod_cast le_high
  have ends : interval.closed = false →
      interval.low * power 10 (-exponent) ≠ digits * interval.step exponent
        ∧ digits * interval.step exponent ≠ interval.high * power 10 (-exponent) := by
    intro isOpen
    obtain ⟨apartLow, apartHigh⟩ := ends isOpen
    constructor <;> intro equal
    · apply apartLow
      rw [← mul_left_inj' positive.ne', scaled]
      exact_mod_cast equal
    · apply apartHigh
      rw [← mul_left_inj' positive.ne', scaled]
      exact_mod_cast equal
  -- the point lies on one of the two sides of the middle, and the neighbour there is no further
  rcases Nat.lt_or_ge (interval.middle * power 10 (-exponent) / interval.step exponent) digits
    with above | below
  · have next := Nat.mul_le_mul_right (interval.step exponent) above
    rw [Nat.succ_mul] at next
    unfold pointOn?
    grind [step]
  · have previous := Nat.mul_le_mul_right (interval.step exponent) below
    unfold pointOn?
    grind [step]

/-- Refining does not go past a grid that has a point in the interval. -/
theorem le_exponent_refine (proper : interval.Proper) {digits : Nat} {goal : Int}
    (inside : interval.Contains (Decimal.mk digits goal).toRat) {tries : Nat}
    (reached : goal ≤ exponent) (enough : exponent < goal + tries) :
    goal ≤ (interval.refine tries exponent).exponent := by
  induction tries generalizing exponent with
  | zero => omega
  | succ tries hypothesis =>
    unfold refine
    cases found : interval.pointOn? exponent with
    | some _ => exact reached
    | none =>
      have different : exponent ≠ goal := by
        rintro rfl
        have isSome := pointOn?_isSome_of_contains proper inside
        rw [found] at isSome
        contradiction
      exact hypothesis (by omega) (by omega)

end RoundingInterval

/-- The place of the first bit of a whole number that is not too great. -/
theorem bounds_of_whole (canonical : parts.Canonical) (positive : 0 < parts.significand)
    (whole : (parts.significand : ℚ) * 2 ^ parts.exponent = count)
    (small : count < 2 * leadingBit) :
    parts.exponent ≤ 0 ∧ 0 ≤ parts.exponent + parts.significand.log2
      ∧ parts.exponent + parts.significand.log2 < 53 := by
  have unit_pos : (0 : ℚ) < 2 ^ parts.exponent := by positivity
  have significand_pos : (0 : ℚ) < parts.significand := by exact_mod_cast positive
  have count_pos : 1 ≤ count := by
    have product := mul_pos significand_pos unit_pos
    rw [whole] at product
    exact_mod_cast product
  have count_lt : (count : ℚ) < 2 ^ (53 : Int) := by
    calc (count : ℚ) < (2 * leadingBit : Nat) := by exact_mod_cast small
      _ = 2 ^ (53 : Int) := by norm_num [leadingBit]
  have low : (2 : ℚ) ^ ((parts.significand.log2 : Int) + parts.exponent) ≤ count := by
    rw [← whole, zpow_add₀ two_ne_zero, zpow_natCast]
    refine mul_le_mul_of_nonneg_right ?_ unit_pos.le
    exact_mod_cast Nat.log2_self_le positive.ne'
  have high : (count : ℚ) < 2 ^ ((parts.significand.log2 + 1 : Nat) + parts.exponent) := by
    rw [← whole, zpow_add₀ two_ne_zero, zpow_natCast]
    refine mul_lt_mul_of_pos_right ?_ unit_pos
    exact_mod_cast Nat.lt_log2_self
  have above := (zpow_lt_zpow_iff_right₀ one_lt_two).1 (low.trans_lt count_lt)
  have one_lt : (2 : ℚ) ^ (0 : Int) < 2 ^ ((parts.significand.log2 + 1 : Nat) + parts.exponent) :=
    lt_of_le_of_lt (by simpa using (by exact_mod_cast count_pos : (1 : ℚ) ≤ count)) high
  have below := (zpow_lt_zpow_iff_right₀ one_lt_two).1 one_lt
  refine ⟨?_, by omega, by omega⟩
  by_contra large
  have leading := canonical.leading (by simp only [leastExponent]; omega)
  have bits : 52 ≤ parts.significand.log2 := (Nat.le_log2 positive.ne').2 leading
  omega

/-- The shortest decimal of a whole number that is not too great is that number. -/
theorem shortest_whole (canonical : parts.Canonical) (positive : 0 < parts.significand)
    (whole : (parts.significand : ℚ) * 2 ^ parts.exponent = count)
    (small : count < 2 * leadingBit) :
    0 ≤ parts.shortest.exponent ∧ parts.shortest.toRat = count := by
  obtain ⟨fine, low, high⟩ := bounds_of_whole canonical positive whole small
  have self : (RoundingInterval.of parts).Contains (Decimal.mk count 0).toRat := by
    have self := contains_self positive
    rw [whole] at self
    simpa [Decimal.toRat] using self
  have nonneg : 0 ≤ parts.shortest.exponent := by
    refine RoundingInterval.le_exponent_refine (RoundingInterval.of_proper positive) self ?_ ?_
    · unfold powerAbove
      omega
    · unfold powerAbove
      omega
  refine ⟨nonneg, ?_⟩
  -- a whole number in the interval is less than one away
  obtain ⟨places, places_eq⟩ := Int.eq_ofNat_of_zero_le nonneg
  have isWhole : parts.shortest.toRat = (parts.shortest.digits * 10 ^ places : Nat) := by
    rw [Decimal.toRat, places_eq]
    push_cast
    simp
  have inside := RoundingInterval.contains_shortest canonical positive
  rw [isWhole, RoundingInterval.of_contains_iff] at inside
  rw [isWhole]
  obtain ⟨low_le, le_high, -⟩ := inside
  have unit_le : (2 : ℚ) ^ (parts.exponent - 2) ≤ 1 / 4 := by
    calc (2 : ℚ) ^ (parts.exponent - 2) ≤ 2 ^ (-2 : Int) :=
          zpow_le_zpow_right₀ one_le_two (by omega)
      _ = 1 / 4 := by norm_num
  have quarters : (4 * parts.significand : ℚ) * 2 ^ (parts.exponent - 2) = count := by
    rw [← whole, zpow_sub₀ two_ne_zero]
    ring
  have below : (4 * parts.significand : ℚ)
      ≤ (4 * parts.significand - RoundingInterval.quartersBelow parts : Nat) + 2 := by
    have reach : RoundingInterval.quartersBelow parts ≤ 2 := by
      exact_mod_cast quartersBelow_le parts
    exact_mod_cast show 4 * parts.significand
      ≤ 4 * parts.significand - RoundingInterval.quartersBelow parts + 2 by omega
  have unit_pos : (0 : ℚ) < 2 ^ (parts.exponent - 2) := by positivity
  have upper : ((parts.shortest.digits * 10 ^ places : Nat) : ℚ) < count + 1 := by
    push_cast at le_high ⊢
    linarith
  have lower : (count : ℚ) < (parts.shortest.digits * 10 ^ places : Nat) + 1 := by
    have reached := mul_le_mul_of_nonneg_right below unit_pos.le
    linarith
  have upper : parts.shortest.digits * 10 ^ places < count + 1 := by exact_mod_cast upper
  have lower : count < parts.shortest.digits * 10 ^ places + 1 := by exact_mod_cast lower
  exact_mod_cast show parts.shortest.digits * 10 ^ places = count by omega

/-- A decimal without places after the point is written by digits alone. -/
theorem digits_positional {decimal : Decimal} (whole : 0 ≤ decimal.exponent) :
    (∀ char ∈ decimal.positional.toList, char.isDigit) ∧ decimal.positional.toList ≠ []
      ∧ (valueOfDigits decimal.positional.toList : ℚ) = decimal.toRat := by
  obtain ⟨digits, exponent⟩ := decimal
  obtain ⟨places, rfl⟩ := Int.eq_ofNat_of_zero_le whole
  have areDigits := isDigit_of_mem_append (fun _ => @isDigit_of_mem_toDigits digits _)
    (isDigit_of_mem_zeros places)
  have written : (Decimal.mk digits places).positional.toList
      = Nat.toDigits 10 digits ++ List.replicate places '0' := by
    unfold Decimal.positional
    simp [wholeText, zeros]
  rw [written]
  refine ⟨areDigits, by simp [Nat.toDigits_ne_nil], ?_⟩
  rw [valueOfDigits_append_zeros, valueOfDigits_toDigits, Decimal.toRat]
  push_cast
  simp

/-- A whole number below the fifty-third power of two is written by its digits. -/
theorem Exactly.text (exactly : Exactly value count) (small : count < 2 * leadingBit) :
    (∀ char ∈ (text value).toList, char.isDigit) ∧ (text value).toList ≠ []
      ∧ valueOfDigits (text value).toList = count := by
  obtain ⟨parts, decoded, unsigned, whole⟩ := exactly
  simp only [Number.text, decoded, unsigned]
  by_cases zero : parts.significand = 0
  · rw [if_pos zero]
    rw [zero, Nat.cast_zero, zero_mul] at whole
    have isZero : count = 0 := by exact_mod_cast whole.symm
    rw [isZero]
    exact ⟨isDigit_of_mem_zeros 1, by simp, rfl⟩
  · have canonical := canonical_of_decode? decoded
    obtain ⟨nonneg, toRat_eq⟩ := shortest_whole canonical (Nat.pos_of_ne_zero zero) whole small
    obtain ⟨areDigits, nonempty, digits_eq⟩ := digits_positional nonneg
    rw [if_neg zero]
    simp only [Bool.false_eq_true, if_false, String.empty_append]
    exact ⟨areDigits, nonempty, by exact_mod_cast digits_eq.trans toRat_eq⟩

end Workings.Number
