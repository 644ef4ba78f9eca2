import Workings.Number.Layout
import Workings.Proofs.Number.Interval

/-!
# Decoding doubles

A double is determined by its parts if it is finite, and by its text if it is not. The parts are
also what the arithmetic of doubles computes with.
-/

namespace Workings.Number

open Float.Model Float.Model.UnpackedFloat

/-- Doubles with the same bits are the same. -/
theorem eq_of_toBits_eq {left right : Float} (same : left.toBits.toNat = right.toBits.toNat) :
    left = right := by
  obtain ⟨⟨leftBits, leftValid⟩⟩ := left
  obtain ⟨⟨rightBits, rightValid⟩⟩ := right
  obtain rfl : leftBits = rightBits := UInt64.toNat_inj.1 same
  rfl

/-- The parts of a double are canonical. -/
theorem canonical_of_decode? {value : Float} {parts : Scaled}
    (decoded : decode? value = some parts) : parts.Canonical := by
  simp only [decode?] at decoded
  split at decoded
  · contradiction
  · split at decoded <;> obtain rfl := Option.some.inj decoded
    · constructor <;> simp only [leadingBit, leastExponent] <;> omega
    · constructor <;> simp only [leadingBit, leastExponent] at * <;> omega

/-- A double is determined by its parts. -/
theorem decode?_injective {left right : Float} {parts : Scaled}
    (leftDecoded : decode? left = some parts) (rightDecoded : decode? right = some parts) :
    left = right := by
  apply eq_of_toBits_eq
  have leftRange := left.toBits.toNat_lt
  have rightRange := right.toBits.toNat_lt
  simp only [decode?] at leftDecoded rightDecoded
  generalize left.toBits.toNat = leftBits at *
  generalize right.toBits.toNat = rightBits at *
  split at leftDecoded
  · contradiction
  split at rightDecoded
  · contradiction
  split at leftDecoded <;> split at rightDecoded <;>
    obtain rfl := Option.some.inj leftDecoded <;>
    simp only [Option.some.injEq, Scaled.mk.injEq, leadingBit, signBit, leastExponent] at * <;>
    grind

/-! ## Parts and unpacked doubles -/

/-- The exponent of a double stands above the bits of its fraction. -/
theorem toNat_unpackExponent (bits : BitVec Format.binary64.numBits) :
    (unpackExponent bits).toNat = bits.toNat / leadingBit % 2048 := by
  simp [unpackExponent, BitVec.extractLsb, Nat.shiftRight_eq_div_pow, leadingBit]

/-- The fraction of a double has its lowest bits. -/
theorem toNat_unpackMantissa (bits : BitVec Format.binary64.numBits) :
    (unpackMantissa bits).toNat = bits.toNat % leadingBit := by
  simp [unpackMantissa, BitVec.extractLsb, leadingBit]

/-- The sign of a double is its highest bit. -/
theorem toNat_unpackSign (bits : BitVec Format.binary64.numBits) :
    (unpackSign bits).toNat = bits.toNat / signBit := by
  have bounded : bits.toNat < 2 ^ 64 := bits.isLt
  delta unpackSign
  simp [BitVec.extractLsb, Nat.shiftRight_eq_div_pow, signBit]
  omega

/-- The sign of a number that is negated or not. -/
def signOf (negative : Bool) : Sign :=
  if negative then .negative else .positive

/-- A double is negated if its highest bit is set. -/
theorem ofBitVec_unpackSign (bits : BitVec Format.binary64.numBits) :
    Sign.ofBitVec (unpackSign bits) = signOf (bits.toNat / signBit == 1) := by
  have bounded : bits.toNat < 2 ^ 64 := bits.isLt
  have positive : unpackSign bits = 0#1 ↔ bits.toNat / signBit = 0 := by
    rw [← BitVec.toNat_inj, toNat_unpackSign]
    rfl
  unfold Sign.ofBitVec signOf
  by_cases clear : bits.toNat / signBit = 0
  · rw [if_pos (positive.2 clear), clear]
    rfl
  · have set : bits.toNat / signBit = 1 := by
      simp only [signBit] at *
      omega
    rw [if_neg fun zero => clear (positive.1 zero), set]
    rfl

/-- Unpacked doubles with the same significands and exponents are the same. -/
theorem finite_congr {sign : Sign} {left right : Nat} {leftExponent rightExponent : Int}
    {leftPositive : 0 < left} {rightPositive : 0 < right} (significand_eq : left = right)
    (exponent_eq : leftExponent = rightExponent) :
    UnpackedFloat.finite sign left leftExponent leftPositive
      = .finite sign right rightExponent rightPositive := by
  subst significand_eq exponent_eq
  rfl

/-- What a double is unpacked to: its parts if it is finite. -/
theorem unpack_eq (value : Float) :
    value.toModel.unpack = match decode? value with
      | none =>
        if value.toBits.toNat % leadingBit = 0 then
          .infinity (signOf (value.toBits.toNat / signBit == 1))
        else .notANumber
      | some parts =>
        if positive : 0 < parts.significand then
          .finite (signOf parts.negative) parts.significand parts.exponent positive
        else .zero (signOf parts.negative) := by
  obtain ⟨bits, bits_eq⟩ : ∃ bits : BitVec Format.binary64.numBits,
    bits = value.toModel.toBits.toBitVec := ⟨_, rfl⟩
  have toNat_eq : value.toBits.toNat = bits.toNat := by rw [bits_eq]; rfl
  have noFraction : unpackMantissa bits = 0#_ ↔ bits.toNat % leadingBit = 0 := by
    rw [← toNat_unpackMantissa, ← BitVec.toNat_inj]
    rfl
  have allOnes : unpackExponent bits = -1#_ ↔ bits.toNat / leadingBit % 2048 = 2047 := by
    rw [← toNat_unpackExponent, ← BitVec.toNat_inj]
    rfl
  have allZeros : unpackExponent bits = 0#_ ↔ bits.toNat / leadingBit % 2048 = 0 := by
    rw [← toNat_unpackExponent, ← BitVec.toNat_inj]
    rfl
  unfold Float.Model.unpack UnpackedFloat.unpack decode?
  rw [toNat_eq, ← bits_eq]
  dsimp only
  rw [ofBitVec_unpackSign]
  by_cases infinite : bits.toNat / leadingBit % 2048 = 2047
  · rw [if_pos (allOnes.2 infinite), if_pos infinite]
    simp only [noFraction]
  rw [if_neg (mt allOnes.1 infinite), if_neg infinite]
  by_cases least : bits.toNat / leadingBit % 2048 = 0
  · rw [if_pos (allZeros.2 least), if_pos least]
    by_cases zero : bits.toNat % leadingBit = 0
    · rw [dif_pos (noFraction.2 zero)]
      dsimp only
      rw [dif_neg (by omega)]
    · rw [dif_neg (mt noFraction.1 zero)]
      dsimp only
      rw [dif_pos (Nat.pos_of_ne_zero zero)]
      exact finite_congr (toNat_unpackMantissa bits) (by rw [toNat_unpackExponent, least]; rfl)
  · -- a normal double has the leading bit in front of its fraction
    have leading : (1#1 ++ unpackMantissa bits).toNat = leadingBit + bits.toNat % leadingBit := by
      rw [BitVec.toNat_append, toNat_unpackMantissa, ← Nat.shiftLeft_add_eq_or_of_lt]
      · rfl
      · exact Nat.mod_lt _ (by decide)
    rw [if_neg (mt allZeros.1 least), if_neg least]
    dsimp only
    rw [dif_pos (Nat.add_pos_left (by decide) _)]
    exact finite_congr leading (by rw [toNat_unpackExponent]; rfl)

/-! ## Doubles that are not finite -/

/-- A double that is not finite has all the bits of its exponent. -/
theorem biased_of_decode?_eq_none {value : Float} (undecoded : decode? value = none) :
    value.toBits.toNat / leadingBit % 2048 = 2047 := by
  simp only [decode?] at undecoded
  split at undecoded
  · assumption
  · split at undecoded <;> contradiction

/-- Doubles are compared by what they are unpacked to. -/
theorem lt_iff (left right : Float) :
    left < right ↔ left.toModel.unpack.compare right.toModel.unpack = some .lt := by
  rw [← beq_iff_eq]
  exact decide_eq_true_iff

/-- No double is smaller than itself. -/
theorem not_lt_self (value : Float) : ¬ value < value := by
  rw [lt_iff]
  rcases value.toModel.unpack with (_ | _) | _ | (_ | _) | ⟨_ | _, _, _⟩ <;>
    dsimp only [UnpackedFloat.compare] <;> simp

/-- What is smaller than a smaller double is smaller. -/
theorem lt_trans {first second third : Float} (less : first < second) (more : second < third) :
    first < third := by
  rw [lt_iff] at less more ⊢
  generalize first.toModel.unpack = first, second.toModel.unpack = second,
    third.toModel.unpack = third at *
  have signs : compare Sign.negative Sign.positive = .lt := rfl
  -- Signs and infinities decide for themselves; only finite doubles of one sign are compared by
  -- their exponents and mantissas.
  rcases first with (_ | _) | _ | (_ | _) | ⟨_ | _, _, _⟩ <;>
    rcases second with (_ | _) | _ | (_ | _) | ⟨_ | _, _, _⟩ <;>
    rcases third with (_ | _) | _ | (_ | _) | ⟨_ | _, _, _⟩ <;>
    dsimp only [UnpackedFloat.compare] at less more ⊢ <;>
    simp only [signs, reduceCtorEq, Option.some.injEq, Ordering.swap_eq_lt, Ordering.then_eq_lt,
      Ordering.then_eq_gt, compare_lt_iff_lt, compare_gt_iff_gt, compare_eq_iff_eq]
      at less more ⊢
  all_goals omega

/-- The text of a double that is not finite, by its bits. -/
theorem nonFinite_eq {value : Float} (undecoded : decode? value = none) :
    nonFinite value =
      if value.toBits.toNat % leadingBit = 0 then
        if value.toBits.toNat / signBit = 1 then "-inf" else "inf"
      else "NaN" := by
  have unpacked := unpack_eq value
  rw [undecoded] at unpacked
  dsimp only at unpacked
  have isNaN_eq : value.isNaN = value.toModel.unpack.isNaN := rfl
  have zero : (0 : Float).toModel.unpack = .zero .positive := by rfl
  simp only [nonFinite, isNaN_eq, lt_iff, zero, unpacked]
  by_cases infinite : value.toBits.toNat % leadingBit = 0
  · rw [if_pos infinite, if_pos infinite]
    by_cases negative : value.toBits.toNat / signBit = 1
    · rw [if_pos negative, negative]
      rfl
    · have positive : (value.toBits.toNat / signBit == 1) = false := by simpa using negative
      rw [if_neg negative, positive]
      rfl
  · rw [if_neg infinite, if_neg infinite]
    rfl

/-- All numbers that are none have the same bits. -/
theorem toBits_of_notANumber {value : Float} (undecoded : decode? value = none)
    (fraction : value.toBits.toNat % leadingBit ≠ 0) :
    value.toBits.toNat = 0x7ff8000000000000 := by
  obtain ⟨bits, bits_eq⟩ : ∃ bits : BitVec Format.binary64.numBits,
    bits = value.toModel.toBits.toBitVec := ⟨_, rfl⟩
  have toNat_eq : value.toBits.toNat = bits.toNat := by rw [bits_eq]; rfl
  have valid : Format.binary64.Valid bits := bits_eq ▸ value.toModel.valid
  have allOnes : unpackExponent bits = -1#_ := by
    rw [← BitVec.toNat_inj, toNat_unpackExponent, ← toNat_eq, biased_of_decode?_eq_none undecoded]
    rfl
  have canonical := valid.eq_packedNaN allOnes fun zero => fraction <| by
    rw [toNat_eq, ← toNat_unpackMantissa, zero]
    rfl
  rw [toNat_eq, canonical]
  rfl

/-- A double that is not finite is determined by its text. -/
theorem nonFinite_injective {left right : Float} (leftUndecoded : decode? left = none)
    (rightUndecoded : decode? right = none) (same : nonFinite left = nonFinite right) :
    left = right := by
  apply eq_of_toBits_eq
  have leftRange := left.toBits.toNat_lt
  have rightRange := right.toBits.toNat_lt
  have leftBiased := biased_of_decode?_eq_none leftUndecoded
  have rightBiased := biased_of_decode?_eq_none rightUndecoded
  rw [nonFinite_eq leftUndecoded, nonFinite_eq rightUndecoded] at same
  by_cases leftInfinite : left.toBits.toNat % leadingBit = 0 <;>
    by_cases rightInfinite : right.toBits.toNat % leadingBit = 0
  · rw [if_pos leftInfinite, if_pos rightInfinite] at same
    have signs : left.toBits.toNat / signBit = 1 ↔ right.toBits.toNat / signBit = 1 := by
      split at same <;> split at same <;> simp_all
    simp only [leadingBit, signBit] at *
    omega
  · rw [if_pos leftInfinite, if_neg rightInfinite] at same
    split at same <;> simp at same
  · rw [if_neg leftInfinite, if_pos rightInfinite] at same
    split at same <;> simp at same
  · rw [toBits_of_notANumber leftUndecoded leftInfinite,
      toBits_of_notANumber rightUndecoded rightInfinite]

/-- There is only one double that is not a number. -/
theorem eq_of_isNaN {left right : Float} (leftNone : left.isNaN) (rightNone : right.isNaN) :
    left = right := by
  have undecoded {value : Float} (none : value.isNaN) : decode? value = Option.none := by
    cases decoded : decode? value with
    | none => rfl
    | some parts =>
      have unpacked := unpack_eq value
      have isNaN_eq : value.isNaN = value.toModel.unpack.isNaN := rfl
      rw [decoded] at unpacked
      rw [isNaN_eq] at none
      by_cases positive : 0 < parts.significand
      · rw [unpacked.trans (dif_pos positive)] at none
        contradiction
      · rw [unpacked.trans (dif_neg positive)] at none
        contradiction
  refine nonFinite_injective (undecoded leftNone) (undecoded rightNone) ?_
  rw [nonFinite, nonFinite, if_pos leftNone, if_pos rightNone]

end Workings.Number
