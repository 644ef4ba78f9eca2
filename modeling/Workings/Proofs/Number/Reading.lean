import Workings.Proofs.Number.Arithmetic
import Workings.Proofs.Number.Writing

/-!
# What is read from numerals

A numeral whose decimal lies in the rounding interval of a double is read as that double. So every
finite double without a sign is read back from its text.
-/

namespace Workings.Number

open Float.Model Float.Model.UnpackedFloat

variable {parts : Scaled}

/-! ## Numerals -/

/-- The first digit counts as often as the power of ten of its place. -/
theorem valueOfDigits_cons (char : Char) (digits : List Char) :
    valueOfDigits (char :: digits)
      = 10 ^ digits.length * (char.toNat - '0'.toNat) + valueOfDigits digits := by
  have begun : valueOfDigits (char :: digits)
      = Nat.ofDigitChars 10 digits (10 * 0 + (char.toNat - '0'.toNat)) := rfl
  rw [begun, Nat.ofDigitChars_eq_ofDigitChars_zero, Nat.mul_zero, Nat.zero_add]
  rfl

/-- The codes of the digits. -/
theorem isDigit_iff {char : Char} : char.isDigit ↔ 48 ≤ char.toNat ∧ char.toNat ≤ 57 := by
  simp [Char.isDigit, UInt32.le_iff_toNat_le, ← Char.toNat_val]

/-- A digit is at most nine. -/
theorem toNat_sub_lt_of_isDigit {char : Char} (digit : char.isDigit) :
    char.toNat - '0'.toNat < 10 := by
  have code := isDigit_iff.1 digit
  have zero : '0'.toNat = 48 := rfl
  omega

/-- Digits are below the power of ten of their number. -/
theorem valueOfDigits_lt {digits : List Char} (areDigits : ∀ char ∈ digits, char.isDigit) :
    valueOfDigits digits < 10 ^ digits.length := by
  induction digits with
  | nil => decide
  | cons char digits hypothesis =>
    have rest := hypothesis fun char member => areDigits char (List.mem_cons_of_mem _ member)
    have first := toNat_sub_lt_of_isDigit (areDigits char List.mem_cons_self)
    rw [valueOfDigits_cons, List.length_cons, Nat.pow_succ]
    calc 10 ^ digits.length * (char.toNat - '0'.toNat) + valueOfDigits digits
        < 10 ^ digits.length * (char.toNat - '0'.toNat) + 10 ^ digits.length := by omega
      _ = 10 ^ digits.length * (char.toNat - '0'.toNat + 1) := by ring
      _ ≤ 10 ^ digits.length * 10 := Nat.mul_le_mul_left _ first

/-- Digits behind any leading zeros. -/
def significant (digits : List Char) : List Char :=
  digits.dropWhile (· = '0')

/-- Leading zeros do not count. -/
theorem valueOfDigits_significant (digits : List Char) :
    valueOfDigits (significant digits) = valueOfDigits digits := by
  unfold significant
  induction digits with
  | nil => rfl
  | cons char digits hypothesis =>
    rw [List.dropWhile_cons]
    split
    · rename_i zero
      obtain rfl : char = '0' := by simpa using zero
      rw [hypothesis, valueOfDigits_cons, Nat.sub_self, Nat.mul_zero, Nat.zero_add]
    · rfl

/-- Digits that do not begin with zero are at least the power of ten of their first place. -/
theorem le_valueOfDigits_significant {digits : List Char}
    (areDigits : ∀ char ∈ digits, char.isDigit) (nonzero : valueOfDigits digits ≠ 0) :
    10 ^ ((significant digits).length - 1) ≤ valueOfDigits digits := by
  rw [← valueOfDigits_significant] at nonzero ⊢
  cases shape : significant digits with
  | nil =>
    rw [shape] at nonzero
    exact absurd rfl nonzero
  | cons char rest =>
    have leading : char ≠ '0' := by
      have first := List.head?_dropWhile_not (fun char => decide (char = '0')) digits
      unfold significant at shape
      rw [shape] at first
      simpa using first
    have member : char ∈ digits := by
      refine (List.dropWhile_suffix (fun char => decide (char = '0'))).subset ?_
      unfold significant at shape
      rw [shape]
      exact List.mem_cons_self
    have positive : 0 < char.toNat - '0'.toNat := by
      have code := isDigit_iff.1 (areDigits char member)
      have different : char.toNat ≠ 48 := fun same => leading (Char.toNat_inj.1 same)
      have zero : '0'.toNat = 48 := rfl
      omega
    rw [valueOfDigits_cons, List.length_cons, Nat.add_sub_cancel]
    exact Nat.le_add_right_of_le (Nat.le_mul_of_pos_right _ positive)

/-- The digits of a decimal that is read, and how many there are behind leading zeros. -/
structure Counted (digits length : Nat) : Prop where
  positive : 0 < digits
  ge : 10 ^ (length - 1) ≤ digits
  lt : digits < 10 ^ length

/-- A decimal in the rounding interval of a double does not have too many places. -/
theorem Counted.not_lt_of_contains {decimal : Decimal} {length : Nat}
    (counted : Counted decimal.digits length) (canonical : parts.Canonical)
    (inside : (RoundingInterval.of parts).Contains decimal.toRat) :
    ¬ 400 < decimal.exponent + length := by
  intro long
  obtain ⟨positive, ge, lt⟩ := counted
  have nonempty : length ≠ 0 := by
    rintro rfl
    omega
  have digits_ge : (10 : ℚ) ^ (length - 1) ≤ decimal.digits := by exact_mod_cast ge
  have finite := lt_of_contains canonical inside
  have infinite : (2 : ℚ) ^ (1024 : Int) ≤ decimal.toRat := by
    calc (2 : ℚ) ^ (1024 : Int) ≤ 2 ^ (3 * 400 : Int) :=
          zpow_le_zpow_right₀ one_le_two (by decide)
      _ = (2 ^ (3 : Int)) ^ (400 : Int) := zpow_mul _ _ _
      _ ≤ 10 ^ (400 : Int) := zpow_le_zpow_left₀ (by decide) (by norm_num) (by norm_num)
      _ ≤ 10 ^ ((length - 1 : Nat) + decimal.exponent) :=
        zpow_le_zpow_right₀ (by norm_num) (by omega)
      _ = 10 ^ (length - 1) * 10 ^ decimal.exponent := by
        rw [zpow_add₀ (by norm_num), zpow_natCast]
      _ ≤ decimal.digits * 10 ^ decimal.exponent := by gcongr
  exact absurd finite infinite.not_gt

/-- A decimal in the rounding interval of a double does not have too many zeros behind the
point. -/
theorem Counted.not_gt_of_contains {decimal : Decimal} {length : Nat}
    (counted : Counted decimal.digits length) (canonical : parts.Canonical)
    (positive : 0 < parts.significand)
    (inside : (RoundingInterval.of parts).Contains decimal.toRat) :
    ¬ decimal.exponent + length < -400 := by
  intro short
  have digits_le : (decimal.digits : ℚ) ≤ 10 ^ length := by exact_mod_cast counted.lt.le
  have nonzero := gt_of_contains canonical positive inside
  have zero : decimal.toRat < (2 : ℚ) ^ (-1075 : Int) := by
    calc decimal.digits * (10 : ℚ) ^ decimal.exponent ≤ 10 ^ length * 10 ^ decimal.exponent := by
          gcongr
      _ = 10 ^ ((length : Int) + decimal.exponent) := by
        rw [zpow_add₀ (by norm_num), zpow_natCast]
      _ ≤ 10 ^ (-400 : Int) := zpow_le_zpow_right₀ (by norm_num) (by omega)
      _ ≤ 2 ^ (-1076 : Int) := ten_zpow_le_two_zpow (by decide) (by decide)
      _ < 2 ^ (-1075 : Int) := zpow_lt_zpow_right₀ one_lt_two (by decide)
  exact absurd nonzero zero.not_ge

/-- A decimal in the rounding interval of a double is read as the double. -/
theorem ofDecimal_eq_packed (canonical : parts.Canonical) (positive : 0 < parts.significand)
    (unsigned : parts.negative = false) {decimal : Decimal} {length : Nat}
    (counted : Counted decimal.digits length)
    (inside : (RoundingInterval.of parts).Contains decimal.toRat) :
    ofDecimal decimal.digits length decimal.exponent = packed parts positive := by
  have notInfinite := counted.not_lt_of_contains canonical inside
  have notZero := counted.not_gt_of_contains canonical positive inside
  unfold ofDecimal
  rw [if_neg counted.positive.ne', if_neg notInfinite, if_neg notZero]
  split
  · rename_i negative
    exact ofScientific_eq_packed canonical positive unsigned counted.positive inside
      (by rw [if_pos rfl]; omega)
  · rename_i nonneg
    exact ofScientific_eq_packed canonical positive unsigned counted.positive inside
      (by rw [if_neg (by decide)]; omega)

/-- What is read from a numeral. -/
theorem Numeral.readDecimal?_eq {chars : List Char} {decimal : Decimal}
    (numeral : Numeral chars decimal) :
    ∃ digits, (∀ char ∈ digits, char.isDigit) ∧ decimal.digits = valueOfDigits digits
      ∧ readDecimal? chars
        = some (ofDecimal decimal.digits (significant digits).length decimal.exponent) := by
  obtain ⟨whole, fraction, split, nonempty, areDigits, rfl⟩ := numeral.split
  refine ⟨whole ++ fraction, areDigits, rfl, ?_⟩
  simp [readDecimal?, split, nonempty, exponent?, significant]

/-- A digit is no letter. -/
theorem isAlpha_of_isDigit {char : Char} (digit : char.isDigit) : char.isAlpha = false := by
  have code := isDigit_iff.1 digit
  have same : char.val.toNat = char.toNat := rfl
  delta Char.isAlpha Char.isUpper Char.isLower
  simp only [UInt32.le_iff_toNat_le, ge_iff_le, same,
    Bool.or_eq_false_iff, Bool.and_eq_false_iff, decide_eq_false_iff_not]
  have upper : 'A'.val.toNat = 65 := rfl
  have lower : 'a'.val.toNat = 97 := rfl
  omega

/-- A digit has no case. -/
theorem toLower_of_isDigit {char : Char} (digit : char.isDigit) : char.toLower = char := by
  have code := isDigit_iff.1 digit
  have least : 'A'.val.toNat = 65 := rfl
  unfold Char.toLower
  rw [dif_neg]
  rintro ⟨ge, -⟩
  rw [ge_iff_le, UInt32.le_iff_toNat_le, least] at ge
  have above : 65 ≤ char.toNat := ge
  omega

/-- A numeral is read as its decimal: it has no sign and is no word. -/
theorem Numeral.read?_eq {lexeme : String} {decimal : Decimal}
    (numeral : Numeral lexeme.toList decimal) : read? lexeme = readDecimal? lexeme.toList := by
  obtain ⟨char, rest, chars_eq, digit⟩ := numeral.head
  have unsigned : splitSign (char :: rest) = (false, char :: rest) := by
    unfold splitSign
    split
    · rename_i minus
      obtain ⟨rfl, -⟩ := List.cons.inj minus
      contradiction
    · rename_i plus
      obtain ⟨rfl, -⟩ := List.cons.inj plus
      contradiction
    · rfl
  have noWord (word : String) (letter : word.toList.head?.any Char.isAlpha) :
      String.ofList ((char :: rest).map Char.toLower) ≠ word := by
    rintro rfl
    rw [String.toList_ofList, List.map_cons, toLower_of_isDigit digit] at letter
    simp [isAlpha_of_isDigit digit] at letter
  have notInfinite : ¬ (String.ofList ((char :: rest).map Char.toLower) = "inf"
      ∨ String.ofList ((char :: rest).map Char.toLower) = "infinity") := by
    rintro (isWord | isWord)
    · exact noWord "inf" (by decide) isWord
    · exact noWord "infinity" (by decide) isWord
  unfold read?
  rw [chars_eq, unsigned]
  dsimp only
  rw [if_neg notInfinite, if_neg (noWord "nan" (by decide))]
  simp

/-- Every numeral is read. -/
theorem Numeral.read?_isSome {lexeme : String} {decimal : Decimal}
    (numeral : Numeral lexeme.toList decimal) : (read? lexeme).isSome := by
  obtain ⟨digits, -, -, reads⟩ := numeral.readDecimal?_eq
  rw [numeral.read?_eq, reads]
  rfl

/-- A numeral in the rounding interval of a double without a sign is read as the double. -/
theorem Numeral.read?_eq_some {lexeme : String} {decimal : Decimal}
    (numeral : Numeral lexeme.toList decimal) {value : Float} (decoded : decode? value = some parts)
    (unsigned : parts.negative = false) (positive : 0 < parts.significand)
    (inside : (RoundingInterval.of parts).Contains decimal.toRat) :
    read? lexeme = some value := by
  have canonical := canonical_of_decode? decoded
  obtain ⟨digits, areDigits, digits_eq, reads⟩ := numeral.readDecimal?_eq
  have nonzero : decimal.digits ≠ 0 := by
    intro zero
    have above := gt_of_contains canonical positive inside
    rw [Decimal.toRat, zero, Nat.cast_zero, zero_mul] at above
    exact absurd above (by norm_num)
  have counted : Counted decimal.digits (significant digits).length := by
    refine ⟨Nat.pos_of_ne_zero nonzero, ?_, ?_⟩
    · rw [digits_eq] at nonzero ⊢
      exact le_valueOfDigits_significant areDigits nonzero
    · rw [digits_eq, ← valueOfDigits_significant]
      exact valueOfDigits_lt fun char member =>
        areDigits char ((List.dropWhile_suffix _).subset member)
  rw [numeral.read?_eq, reads, ofDecimal_eq_packed canonical positive unsigned counted inside]
  exact congrArg some (decode?_injective (decode?_packed canonical positive) decoded)

/-- Every finite double without a sign is read back from its text. -/
theorem read?_text {value : Float} (decoded : decode? value = some parts)
    (unsigned : parts.negative = false) : read? (text value) = some value := by
  have canonical := canonical_of_decode? decoded
  obtain ⟨written, numeral, written_eq⟩ := numeral_text decoded unsigned
  by_cases zero : parts.significand = 0
  · -- zero is read from any numeral without another digit
    obtain ⟨digits, -, -, reads⟩ := numeral.readDecimal?_eq
    have noDigits : written.digits = 0 := by
      rw [Scaled.written, if_pos zero, Decimal.toRat, mul_eq_zero] at written_eq
      rcases written_eq with digits_zero | power_zero
      · exact_mod_cast digits_zero
      · exact absurd power_zero (by positivity)
    have parts_eq : parts = ⟨false, 0, leastExponent⟩ := by
      have least := canonical.exponent_eq_of_zero zero
      cases parts
      simp_all
    have isZero : decode? 0 = some ⟨false, 0, leastExponent⟩ := by decide +kernel
    rw [numeral.read?_eq, reads, noDigits, ofDecimal, if_pos rfl]
    rw [parts_eq] at decoded
    exact congrArg some (decode?_injective isZero decoded)
  · have positive := Nat.pos_of_ne_zero zero
    rw [Scaled.written, if_neg zero] at written_eq
    have inside := RoundingInterval.contains_shortest canonical positive
    rw [← written_eq] at inside
    exact numeral.read?_eq_some decoded unsigned positive inside

/-! ## Signs -/

/-- A double without a sign, if it is finite. -/
def Unsigned (value : Float) : Prop :=
  ∀ parts, decode? value = some parts → parts.negative = false

/-- An unpacked double without a sign. -/
def Positive : UnpackedFloat → Prop
  | .infinity sign | .zero sign | .finite sign _ _ _ => sign = .positive
  | .notANumber => True

/-- Without its highest bit, a double has no sign. -/
theorem unsigned_of_bits {value : Float} (clear : value.toBits.toNat / signBit = 0) :
    Unsigned value := by
  intro parts decoded
  simp only [decode?, clear] at decoded
  split at decoded
  · contradiction
  · split at decoded <;> obtain rfl := Option.some.inj decoded <;> rfl

/-- Packing adds no sign. -/
theorem clear_pack {unpacked : UnpackedFloat} (positive : Positive unpacked) :
    (Float.ofModel (.pack unpacked)).toBits.toNat / signBit = 0 := by
  have clear (exponent : BitVec 11) (fraction : BitVec 52) :
      (packComponents .binary64 .positive exponent fraction).toNat / signBit = 0 := by
    have exponent_lt := exponent.isLt
    have fraction_lt := fraction.isLt
    have sign : Sign.positive.toBitVec.toNat = 0 := rfl
    rw [toNat_packComponents, sign]
    simp only [signBit, leadingBit]
    omega
  change (UnpackedFloat.pack .binary64 unpacked).toNat / signBit = 0
  cases unpacked with
  | notANumber => exact clear _ _
  | infinity sign =>
    obtain rfl : sign = .positive := positive
    exact clear _ _
  | zero sign =>
    obtain rfl : sign = .positive := positive
    exact clear _ _
  | finite sign mantissa exponent mantissa_pos =>
    obtain rfl : sign = .positive := positive
    delta UnpackedFloat.pack
    dsimp only
    split
    · exact clear _ _
    · split
      · exact clear _ _
      · exact clear _ _

/-- A choice between unpacked doubles without a sign has none. -/
theorem positive_dite {condition : Prop} [Decidable condition] {yes : condition → UnpackedFloat}
    {no : ¬ condition → UnpackedFloat} (yesPositive : ∀ holds, Positive (yes holds))
    (noPositive : ∀ fails, Positive (no fails)) : Positive (dite condition yes no) := by
  by_cases holds : condition
  · rw [dif_pos holds]
    exact yesPositive holds
  · rw [dif_neg holds]
    exact noPositive holds

/-- Rounding adds no sign. -/
theorem positive_roundWithAccuracy (mantissa : Nat) (exponent : Int) (accuracy : Accuracy) :
    Positive (roundWithAccuracy .binary64 .positive mantissa exponent accuracy) := by
  unfold roundWithAccuracy
  exact positive_dite (fun _ => rfl) fun _ => rfl

/-- Decimals have no sign. -/
theorem positive_ofScientific (digits : Nat) (exponent : Int) :
    Positive (UnpackedFloat.ofScientific .binary64 digits exponent) := by
  unfold UnpackedFloat.ofScientific
  refine positive_dite (fun _ => rfl) fun _ => ?_
  refine positive_dite (fun _ => rfl) fun _ => ?_
  refine positive_dite (fun _ => rfl) fun _ => ?_
  apply positive_dite
  · exact fun _ => positive_roundWithAccuracy _ _ _
  · exact fun _ => positive_roundWithAccuracy _ _ _

/-- Decimals have no sign, also where a power of ten is looked up. -/
theorem clear_ofScientific {digits : Nat} (nonzero : 0 < digits) (small : Bool) (size : Nat) :
    (Float.ofScientific digits small size).toBits.toNat / signBit = 0 := by
  unfold Float.ofScientific
  split
  · rename_i fast
    have few : digits < 2 * leadingBit := by
      simp only [leadingBit]
      omega
    have listed : size < 23 := by omega
    have digitsUnpacked := unpack_toFloat nonzero few
    have powerUnpacked : Float.exactlyRepresentablePowersOfTen[size].toModel.unpack = _ :=
      unpack_powerOfTen ⟨size, listed⟩
    cases small with
    | true =>
      have quotient : Positive (UnpackedFloat.div .binary64 digits.toUInt64.toFloat.toModel.unpack
          Float.exactlyRepresentablePowersOfTen[size].toModel.unpack) := by
        rw [digitsUnpacked, powerUnpacked]
        exact positive_roundWithAccuracy _ _ _
      exact clear_pack quotient
    | false =>
      have product : Positive (UnpackedFloat.mul .binary64 digits.toUInt64.toFloat.toModel.unpack
          Float.exactlyRepresentablePowersOfTen[size].toModel.unpack) := by
        rw [digitsUnpacked, powerUnpacked]
        exact positive_roundWithAccuracy _ _ _
      exact clear_pack product
  · exact clear_pack (positive_ofScientific _ _)

/-- The highest bit of what is read from a numeral is not set. -/
theorem Numeral.clear {lexeme : String} {decimal : Decimal}
    (numeral : Numeral lexeme.toList decimal) {value : Float} (reads : read? lexeme = some value) :
    value.toBits.toNat / signBit = 0 := by
  obtain ⟨digits, -, -, readsDecimal⟩ := numeral.readDecimal?_eq
  rw [numeral.read?_eq, readsDecimal] at reads
  obtain rfl := Option.some.inj reads
  have zero : (0 : Float).toBits.toNat / signBit = 0 := by decide +kernel
  unfold ofDecimal
  split
  · exact zero
  · rename_i nonzero
    have positive := Nat.pos_of_ne_zero nonzero
    split
    · decide +kernel
    · split
      · exact zero
      · split
        · exact clear_ofScientific positive _ _
        · exact clear_ofScientific positive _ _

/-- What is read from a numeral has no sign. -/
theorem Numeral.unsigned {lexeme : String} {decimal : Decimal}
    (numeral : Numeral lexeme.toList decimal) {value : Float} (reads : read? lexeme = some value) :
    Unsigned value :=
  unsigned_of_bits (numeral.clear reads)

/-- A double is finite if it has parts. -/
theorem isFinite_iff {value : Float} : value.isFinite ↔ ∃ parts, decode? value = some parts := by
  have isFinite_eq : value.isFinite = value.toModel.unpack.isFinite := rfl
  rw [isFinite_eq, unpack_eq]
  cases decoded : decode? value with
  | none =>
    dsimp only
    refine iff_of_false ?_ (by simp)
    by_cases infinite : value.toBits.toNat % leadingBit = 0
    · rw [if_pos infinite]
      exact Bool.false_ne_true
    · rw [if_neg infinite]
      exact Bool.false_ne_true
  | some parts =>
    dsimp only
    refine iff_of_true ?_ ⟨parts, rfl⟩
    by_cases positive : 0 < parts.significand
    · rw [dif_pos positive]
      rfl
    · rw [dif_neg positive]
      rfl

end Workings.Number
