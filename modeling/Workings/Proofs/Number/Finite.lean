import Workings.Proofs.Number.Reading

/-!
# Finite doubles

A double is finite if it has parts, and it is told by its text whether it is. Its sign does not
count.
-/

namespace Workings.Number

open Float.Model Float.Model.UnpackedFloat

variable {value : Float} {parts : Scaled}

/-- The texts of doubles that are not finite. -/
def nonFiniteTexts : List String := ["inf", "-inf", "NaN"]

/-- The text of a finite double has digits, points and signs only. -/
theorem of_mem_text (decoded : decode? value = some parts) :
    ∀ char ∈ (text value).toList, char.isDigit ∨ char = '.' ∨ char = '-' := by
  intro char member
  obtain ⟨written, numeral, -⟩ := numeral_positional parts.shortest
  simp only [text, decoded] at member
  split at member
  · obtain rfl : char = '0' := by simpa using member
    exact .inl (by decide)
  · rw [String.toList_append, List.mem_append] at member
    rcases member with isSign | inside
    · split at isSign
      · exact .inr (.inr (by simpa using isSign))
      · simp at isSign
    · exact (numeral.isDigit_or_point char inside).imp_right .inl

/-- A double that is not finite has no parts. -/
theorem decode?_eq_none (notFinite : ¬ value.isFinite) : decode? value = none :=
  Option.eq_none_iff_forall_ne_some.2 fun parts decoded =>
    notFinite (isFinite_iff.2 ⟨parts, decoded⟩)

/-- A double has the text of one that is not finite if and only if it is not. -/
theorem text_mem_nonFiniteTexts_iff : text value ∈ nonFiniteTexts ↔ ¬ value.isFinite := by
  constructor
  · intro member finite
    obtain ⟨parts, decoded⟩ := isFinite_iff.1 finite
    have letter : 'n' ∈ (text value).toList ∨ 'N' ∈ (text value).toList := by
      simp only [nonFiniteTexts, List.mem_cons, List.not_mem_nil, or_false] at member
      rcases member with same | same | same <;> rw [same] <;> decide
    rcases letter with isLetter | isLetter
    · exact absurd (of_mem_text decoded _ isLetter) (by decide)
    · exact absurd (of_mem_text decoded _ isLetter) (by decide)
  · intro notFinite
    simp only [text, decode?_eq_none notFinite, nonFinite, nonFiniteTexts]
    split
    · simp
    · split <;> simp

/-- A double without a sign that is not finite is written as a name. -/
theorem text_of_clear (clear : value.toBits.toNat / signBit = 0) (notFinite : ¬ value.isFinite) :
    text value = "inf" ∨ text value = "NaN" := by
  have undecoded := decode?_eq_none notFinite
  simp only [text, undecoded, nonFinite_eq undecoded, clear]
  split
  · exact .inl rfl
  · exact .inr rfl

/-- The parts of the negated double. -/
def Scaled.opposite (parts : Scaled) : Scaled :=
  { parts with negative := !parts.negative }

/-- The parts of the negated double are canonical if those of the double are. -/
theorem Scaled.Canonical.opposite (canonical : parts.Canonical) : parts.opposite.Canonical :=
  ⟨canonical.exponent_ge, canonical.exponent_le, canonical.significand_lt, canonical.leading⟩

/-- A finite double stays finite when it is negated. -/
theorem isFinite_neg (finite : value.isFinite) : (-value).isFinite := by
  obtain ⟨⟨negative, significand, exponent⟩, decoded⟩ := isFinite_iff.1 finite
  have neg_eq : -value = .ofModel (.pack value.toModel.unpack.neg) := rfl
  have unpacked := unpack_eq value
  rw [decoded] at unpacked
  by_cases positive : 0 < significand
  · have canonical := (canonical_of_decode? decoded).opposite
    have packs : -value = packed ⟨!negative, significand, exponent⟩ positive := by
      rw [neg_eq, unpacked.trans (dif_pos positive)]
      cases negative <;> rfl
    rw [packs]
    exact isFinite_iff.2 ⟨_, decode?_packed canonical positive⟩
  · have zero : value.toModel.unpack = .zero (signOf negative) := unpacked.trans (dif_neg positive)
    rw [neg_eq, zero]
    cases negative <;> decide +kernel

end Workings.Number
