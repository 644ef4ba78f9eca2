import Workings.Number.Reading
import Workings.Proofs.Number.Decoding

/-!
# What the texts of doubles write

The text of a finite double writes a decimal that lies in the rounding interval of the double. So a
double is determined by its literal, and among the doubles of one sign by its shortest text.
-/

namespace Workings.Number

/-- The decimal that is written by digits with an optional point and an optional exponent. -/
def decimal? (chars : List Char) : Option Decimal := do
  let parts := Mantissa.split chars
  let digits := parts.whole ++ parts.fraction
  if digits.isEmpty then none
  else
    let power ← exponent? parts.rest
    some ⟨valueOfDigits digits, power - parts.fraction.length⟩

/-! ## Digits -/

/-- Digits have the value of the number they were written for. -/
theorem valueOfDigits_toDigits (count : Nat) : valueOfDigits (Nat.toDigits 10 count) = count :=
  Nat.ofDigitChars_ten_toDigits

/-- Zeros in front of digits do not count. -/
theorem valueOfDigits_zeros_append (count : Nat) (digits : List Char) :
    valueOfDigits (List.replicate count '0' ++ digits) = valueOfDigits digits := by
  induction count with
  | zero => rfl
  | succ count hypothesis => exact hypothesis

/-- Every zero behind digits multiplies their value by ten. -/
theorem valueOfDigits_append_zeros (digits : List Char) (count : Nat) :
    valueOfDigits (digits ++ List.replicate count '0') = valueOfDigits digits * 10 ^ count := by
  induction count with
  | zero => simp
  | succ count hypothesis =>
    rw [List.replicate_succ', ← List.append_assoc]
    unfold valueOfDigits at hypothesis ⊢
    rw [List.foldl_append, hypothesis, Nat.pow_succ]
    simp only [List.foldl_cons, List.foldl_nil, Nat.sub_self, Nat.add_zero]
    ring

/-- The digits of a number are digits. -/
theorem isDigit_of_mem_toDigits {count : Nat} {char : Char}
    (member : char ∈ Nat.toDigits 10 count) : char.isDigit :=
  Nat.isDigit_of_mem_toDigits (by decide) (by decide) member

/-- Zeros are digits. -/
theorem isDigit_of_mem_zeros (count : Nat) : ∀ char ∈ List.replicate count '0', char.isDigit := by
  intro char member
  rw [List.eq_of_mem_replicate member]
  rfl

/-- Digits behind digits are digits. -/
theorem isDigit_of_mem_append {left right : List Char} (leftDigits : ∀ char ∈ left, char.isDigit)
    (rightDigits : ∀ char ∈ right, char.isDigit) : ∀ char ∈ left ++ right, char.isDigit := by
  intro char member
  rcases List.mem_append.1 member with inLeft | inRight
  · exact leftDigits char inLeft
  · exact rightDigits char inRight

/-- A text that does not begin with a digit. -/
def StartsWithoutDigit (chars : List Char) : Prop :=
  ∀ char ∈ chars.head?, char.isDigit = false

/-- The digits at the beginning of a text. -/
theorem takeWhile_digits {digits rest : List Char} (areDigits : ∀ char ∈ digits, char.isDigit)
    (stops : StartsWithoutDigit rest) :
    (digits ++ rest).takeWhile Char.isDigit = digits := by
  rw [List.takeWhile_append_of_pos areDigits]
  cases rest with
  | nil => simp
  | cons char rest => simp [stops char rfl]

/-- What stands behind the digits at the beginning of a text. -/
theorem dropWhile_digits {digits rest : List Char} (areDigits : ∀ char ∈ digits, char.isDigit)
    (stops : StartsWithoutDigit rest) :
    (digits ++ rest).dropWhile Char.isDigit = rest := by
  rw [List.dropWhile_append_of_pos areDigits]
  cases rest with
  | nil => simp
  | cons char rest => simp [stops char rfl]

/-- Digits without a point are split off as a whole. -/
theorem split_whole {digits rest : List Char} (areDigits : ∀ char ∈ digits, char.isDigit)
    (stops : StartsWithoutDigit rest) (noPoint : rest.head? ≠ some '.') :
    Mantissa.split (digits ++ rest) = ⟨digits, [], rest⟩ := by
  unfold Mantissa.split
  rw [takeWhile_digits areDigits stops, dropWhile_digits areDigits stops]
  cases rest with
  | nil => rfl
  | cons char rest => grind

/-- Digits with a point are split at it. -/
theorem split_point {whole fraction rest : List Char} (wholeDigits : ∀ char ∈ whole, char.isDigit)
    (fractionDigits : ∀ char ∈ fraction, char.isDigit) (stops : StartsWithoutDigit rest) :
    Mantissa.split (whole ++ '.' :: (fraction ++ rest)) = ⟨whole, fraction, rest⟩ := by
  have point : StartsWithoutDigit ('.' :: (fraction ++ rest)) := by simp [StartsWithoutDigit]
  unfold Mantissa.split
  rw [takeWhile_digits wholeDigits point, dropWhile_digits wholeDigits point]
  simp only [takeWhile_digits fractionDigits stops, dropWhile_digits fractionDigits stops]

/-- A negative whole number is written with a sign. -/
theorem toList_toString_negSucc (count : Nat) :
    (toString (Int.negSucc count)).toList = '-' :: Nat.toDigits 10 (count + 1) := by
  change ("-" ++ (count + 1).repr).toList = _
  rw [String.toList_append, Nat.toList_repr]
  rfl

/-- A whole number behind the letter of exponents is read back. -/
theorem exponent?_toString (exponent : Int) :
    exponent? ('e' :: (toString exponent).toList) = some exponent := by
  have allDigits (count : Nat) : (Nat.toDigits 10 count).all Char.isDigit :=
    List.all_eq_true.2 fun char => isDigit_of_mem_toDigits
  have nonempty (count : Nat) : (Nat.toDigits 10 count).isEmpty = false := by
    simp [Nat.toDigits_ne_nil]
  cases exponent with
  | ofNat count =>
    have written : (toString (Int.ofNat count)).toList = Nat.toDigits 10 count :=
      Nat.toList_repr
    have unsigned : splitSign (Nat.toDigits 10 count) = (false, Nat.toDigits 10 count) := by
      unfold splitSign
      split <;> rename_i digits_eq
      · have digit := allDigits count
        simp [digits_eq] at digit
      · have digit := allDigits count
        simp [digits_eq] at digit
      · rfl
    rw [written, exponent?, unsigned]
    simp [allDigits, nonempty, valueOfDigits_toDigits]
  | negSucc count =>
    rw [toList_toString_negSucc, exponent?]
    simp [splitSign, allDigits, nonempty, valueOfDigits_toDigits, Int.negSucc_eq]

/-- A numeral, and the decimal that it writes: digits, or digits on both sides of a point. -/
inductive Numeral : List Char → Decimal → Prop where
  | whole {digits : List Char} (areDigits : ∀ char ∈ digits, char.isDigit)
      (nonempty : digits ≠ []) : Numeral digits ⟨valueOfDigits digits, 0⟩
  | point {whole fraction : List Char} (wholeDigits : ∀ char ∈ whole, char.isDigit)
      (fractionDigits : ∀ char ∈ fraction, char.isDigit) (wholeNonempty : whole ≠ [])
      (fractionNonempty : fraction ≠ []) :
      Numeral (whole ++ '.' :: fraction) ⟨valueOfDigits (whole ++ fraction), -fraction.length⟩

/-- A numeral consists of digits and a point. -/
theorem Numeral.isDigit_or_point {chars : List Char} {decimal : Decimal}
    (numeral : Numeral chars decimal) : ∀ char ∈ chars, char.isDigit ∨ char = '.' := by
  intro char member
  cases numeral with
  | whole areDigits _ => exact .inl (areDigits char member)
  | point wholeDigits fractionDigits _ _ =>
    rw [List.mem_append, List.mem_cons] at member
    rcases member with inWhole | isPoint | inFraction
    · exact .inl (wholeDigits char inWhole)
    · exact .inr isPoint
    · exact .inl (fractionDigits char inFraction)

/-- A numeral is split at its point. -/
theorem Numeral.split {chars : List Char} {decimal : Decimal} (numeral : Numeral chars decimal) :
    ∃ whole fraction, Mantissa.split chars = ⟨whole, fraction, []⟩ ∧ whole ≠ []
      ∧ (∀ char ∈ whole ++ fraction, char.isDigit)
      ∧ decimal = ⟨valueOfDigits (whole ++ fraction), -fraction.length⟩ := by
  have stops : StartsWithoutDigit [] := by simp [StartsWithoutDigit]
  cases numeral with
  | whole areDigits nonempty =>
    have split := split_whole areDigits stops (by simp)
    rw [List.append_nil] at split
    exact ⟨chars, [], split, nonempty, by simpa using areDigits, by simp⟩
  | @point whole fraction wholeDigits fractionDigits wholeNonempty _ =>
    have split := split_point wholeDigits fractionDigits stops
    rw [List.append_nil] at split
    exact ⟨whole, fraction, split, wholeNonempty,
      isDigit_of_mem_append wholeDigits fractionDigits, rfl⟩

/-- A numeral begins with a digit. -/
theorem Numeral.head {chars : List Char} {decimal : Decimal} (numeral : Numeral chars decimal) :
    ∃ char rest, chars = char :: rest ∧ char.isDigit := by
  cases numeral with
  | whole areDigits nonempty =>
    obtain ⟨char, rest, rfl⟩ := List.exists_cons_of_ne_nil nonempty
    exact ⟨char, rest, rfl, areDigits char List.mem_cons_self⟩
  | point wholeDigits _ wholeNonempty _ =>
    obtain ⟨char, rest, rfl⟩ := List.exists_cons_of_ne_nil wholeNonempty
    exact ⟨char, rest ++ _, rfl, wholeDigits char List.mem_cons_self⟩

/-- A numeral writes its decimal. -/
theorem Numeral.decimal?_eq {chars : List Char} {decimal : Decimal}
    (numeral : Numeral chars decimal) : decimal? chars = some decimal := by
  obtain ⟨whole, fraction, split, nonempty, -, rfl⟩ := numeral.split
  simp [decimal?, split, nonempty, exponent?]

/-- The decimal that is written by one digit before the point and an exponent. -/
theorem decimal?_scientific (decimal : Decimal) :
    decimal? decimal.scientific.toList = some decimal := by
  obtain ⟨digits, exponent⟩ := decimal
  have areDigits : ∀ char ∈ Nat.toDigits 10 digits, char.isDigit :=
    fun _ => isDigit_of_mem_toDigits
  have value := valueOfDigits_toDigits digits
  have magnitude_eq : (Decimal.mk digits exponent).magnitude
      = exponent + ((Nat.toDigits 10 digits).length - 1 : Nat) := rfl
  unfold Decimal.scientific
  generalize (Decimal.mk digits exponent).magnitude = magnitude at *
  have power := exponent?_toString magnitude
  have stops : StartsWithoutDigit ('e' :: (toString magnitude).toList) := by
    simp [StartsWithoutDigit]
  generalize toString magnitude = powerText at *
  dsimp only
  split
  · rename_i lead digits_eq
    rw [digits_eq] at areDigits value magnitude_eq
    have split := split_whole areDigits stops (by simp)
    simp only [List.cons_append, List.nil_append] at split
    simp [decimal?, split, power, value, magnitude_eq]
  · rename_i lead rest rest_ne digits_eq
    rw [digits_eq] at areDigits value magnitude_eq
    have split : Mantissa.split ([lead] ++ '.' :: (rest ++ 'e' :: powerText.toList)) = _ :=
      split_point (by simpa using areDigits lead)
        (fun char member => areDigits char (List.mem_cons_of_mem _ member)) stops
    simp only [List.cons_append, List.nil_append] at split
    simp [decimal?, split, power, value, magnitude_eq]
  · rename_i digits_eq
    exact absurd digits_eq Nat.toDigits_ne_nil

/-- A decimal without an exponent is written as a numeral. -/
theorem numeral_positional (decimal : Decimal) :
    ∃ written, Numeral decimal.positional.toList written ∧ written.toRat = decimal.toRat := by
  obtain ⟨digits, exponent⟩ := decimal
  have areDigits : ∀ char ∈ Nat.toDigits 10 digits, char.isDigit :=
    fun _ => isDigit_of_mem_toDigits
  unfold Decimal.positional
  dsimp only
  split
  · -- zeros behind the digits
    rename_i whole
    obtain ⟨count, rfl⟩ := Int.eq_ofNat_of_zero_le whole
    refine ⟨⟨digits * 10 ^ count, 0⟩, ?_, by simp [Decimal.toRat]⟩
    have numeral := Numeral.whole (isDigit_of_mem_append areDigits (isDigit_of_mem_zeros count))
      (by simp [Nat.toDigits_ne_nil])
    rw [valueOfDigits_append_zeros, valueOfDigits_toDigits] at numeral
    simpa [wholeText, zeros] using numeral
  · obtain ⟨places, places_eq⟩ := Int.eq_ofNat_of_zero_le (show 0 ≤ -exponent by omega)
    obtain rfl : exponent = -(places : Int) := by omega
    refine ⟨⟨digits, -(places : Int)⟩, ?_, rfl⟩
    simp only [neg_neg, Int.toNat_natCast, wholeText, zeros]
    split
    · -- a point among the digits
      rename_i among
      obtain ⟨whole, fraction, split, wholeLength, fractionLength⟩ :
          ∃ whole fraction, Nat.toDigits 10 digits = whole ++ fraction
            ∧ whole.length = (Nat.toDigits 10 digits).length - places
            ∧ fraction.length = places :=
        ⟨_, _, (List.take_append_drop ((Nat.toDigits 10 digits).length - places) _).symm,
          by rw [List.length_take]; omega, by rw [List.length_drop]; omega⟩
      have value := valueOfDigits_toDigits digits
      rw [← wholeLength, split, List.take_left, List.drop_left]
      rw [split] at areDigits value
      have numeral : Numeral (whole ++ '.' :: fraction) _ := Numeral.point
        (fun char member => areDigits char (List.mem_append_left _ member))
        (fun char member => areDigits char (List.mem_append_right _ member))
        (List.ne_nil_of_length_pos (by omega)) (List.ne_nil_of_length_pos (by omega))
      rw [value, fractionLength] at numeral
      simpa using numeral
    · -- zeros between the point and the digits
      have numeral := Numeral.point (isDigit_of_mem_zeros 1)
        (isDigit_of_mem_append
          (isDigit_of_mem_zeros (places - (Nat.toDigits 10 digits).length)) areDigits)
        (by simp) (by simp [Nat.toDigits_ne_nil])
      rw [valueOfDigits_zeros_append, valueOfDigits_zeros_append, valueOfDigits_toDigits,
        List.length_append, List.length_replicate, Nat.sub_add_cancel (by omega)] at numeral
      simpa using numeral

/-- A decimal without places after the point may be written with a point and a zero. -/
theorem numeral_positional_point {decimal : Decimal} (whole : 0 ≤ decimal.exponent) :
    ∃ written, Numeral (decimal.positional ++ ".0").toList written
      ∧ written.toRat = decimal.toRat := by
  obtain ⟨digits, exponent⟩ := decimal
  have areDigits : ∀ char ∈ Nat.toDigits 10 digits, char.isDigit :=
    fun _ => isDigit_of_mem_toDigits
  obtain ⟨count, rfl⟩ := Int.eq_ofNat_of_zero_le whole
  refine ⟨⟨digits * 10 ^ count * 10, -1⟩, ?_, by simp [Decimal.toRat]⟩
  have numeral := Numeral.point
    (isDigit_of_mem_append areDigits (isDigit_of_mem_zeros count)) (isDigit_of_mem_zeros 1)
    (by simp [Nat.toDigits_ne_nil]) (by simp)
  rw [valueOfDigits_append_zeros, valueOfDigits_append_zeros, valueOfDigits_toDigits] at numeral
  unfold Decimal.positional
  rw [if_pos whole]
  simpa [wholeText, zeros] using numeral

/-! ## The characters of literals -/

/-- A character that literals are made of. -/
def isLiteralChar (char : Char) : Bool :=
  char.isAlphanum || char = '.' || char = '-'

/-- Digits may stand in literals. -/
theorem isLiteralChar_of_isDigit {char : Char} (digit : char.isDigit) : isLiteralChar char := by
  simp [isLiteralChar, Char.isAlphanum, digit]

/-- Numerals are made of characters of literals. -/
theorem Numeral.isLiteralChar {chars : List Char} {decimal : Decimal}
    (numeral : Numeral chars decimal) : ∀ char ∈ chars, isLiteralChar char := by
  cases numeral with
  | whole areDigits _ => exact fun char member => isLiteralChar_of_isDigit (areDigits char member)
  | point wholeDigits fractionDigits _ _ =>
    intro char member
    rcases List.mem_append.1 member with inWhole | inRest
    · exact isLiteralChar_of_isDigit (wholeDigits char inWhole)
    · rcases List.mem_cons.1 inRest with rfl | inFraction
      · rfl
      · exact isLiteralChar_of_isDigit (fractionDigits char inFraction)

/-- Whole numbers are made of characters of literals. -/
theorem isLiteralChar_of_mem_toString {exponent : Int} :
    ∀ char ∈ (toString exponent).toList, isLiteralChar char := by
  intro char member
  cases exponent with
  | ofNat count =>
    have written : (toString (Int.ofNat count)).toList = Nat.toDigits 10 count :=
      Nat.toList_repr
    rw [written] at member
    exact isLiteralChar_of_isDigit (isDigit_of_mem_toDigits member)
  | negSucc count =>
    rw [toList_toString_negSucc] at member
    rcases List.mem_cons.1 member with rfl | inDigits
    · rfl
    · exact isLiteralChar_of_isDigit (isDigit_of_mem_toDigits inDigits)

/-- Decimals with an exponent are made of characters of literals. -/
theorem isLiteralChar_of_mem_scientific {decimal : Decimal} :
    ∀ char ∈ decimal.scientific.toList, isLiteralChar char := by
  have areDigits : ∀ char ∈ Nat.toDigits 10 decimal.digits, char.isDigit :=
    fun _ => isDigit_of_mem_toDigits
  have power := @isLiteralChar_of_mem_toString decimal.magnitude
  unfold Decimal.scientific
  intro char member
  split at member
  · rename_i lead digits_eq
    rw [digits_eq] at areDigits
    simp only [String.toList_append, String.toList_singleton, List.mem_append] at member
    rcases member with (inLead | isLetter) | inPower
    · exact isLiteralChar_of_isDigit (areDigits char inLead)
    · rw [List.mem_singleton.1 isLetter]
      rfl
    · exact power char inPower
  · rename_i lead rest _ digits_eq
    rw [digits_eq] at areDigits
    simp only [String.toList_append, String.toList_singleton, String.toList_ofList,
      List.mem_append] at member
    rcases member with (((inLead | isPoint) | inRest) | isLetter) | inPower
    · exact isLiteralChar_of_isDigit
        (areDigits char (List.mem_singleton.1 inLead ▸ List.mem_cons_self))
    · rw [List.mem_singleton.1 isPoint]
      rfl
    · exact isLiteralChar_of_isDigit (areDigits char (List.mem_cons_of_mem _ inRest))
    · rw [List.mem_singleton.1 isLetter]
      rfl
    · exact power char inPower
  · simp at member

/-! ## The texts of doubles -/

/-- The rational that the text of a finite double writes, its sign aside. -/
def Scaled.written (parts : Scaled) : ℚ :=
  if parts.significand = 0 then 0 else parts.shortest.toRat

/-- The shortest decimal of a double that is not zero is positive. -/
theorem toRat_shortest_pos {parts : Scaled} (canonical : parts.Canonical)
    (positive : 0 < parts.significand) : 0 < parts.shortest.toRat := by
  have inside := RoundingInterval.contains_shortest canonical positive
  refine lt_of_lt_of_le ?_ ((RoundingInterval.of_contains_iff _).1 inside).1
  have quarters : 0 < 4 * parts.significand - RoundingInterval.quartersBelow parts := by
    unfold RoundingInterval.quartersBelow
    split <;> omega
  positivity

/-- The parts of a double are determined by what its text writes, and by its sign. -/
theorem eq_of_written_eq {left right : Scaled} (leftCanonical : left.Canonical)
    (rightCanonical : right.Canonical) (signs : left.negative = right.negative)
    (same : left.written = right.written) : left = right := by
  obtain ⟨significands, exponents⟩ :
      left.significand = right.significand ∧ left.exponent = right.exponent := by
    unfold Scaled.written at same
    split at same <;> split at same
    · rename_i leftZero rightZero
      exact ⟨leftZero.trans rightZero.symm,
        (leftCanonical.exponent_eq_of_zero leftZero).trans
          (rightCanonical.exponent_eq_of_zero rightZero).symm⟩
    · rename_i nonzero
      exact absurd same (toRat_shortest_pos rightCanonical (Nat.pos_of_ne_zero nonzero)).ne
    · rename_i nonzero _
      exact absurd same (toRat_shortest_pos leftCanonical (Nat.pos_of_ne_zero nonzero)).ne'
    · rename_i leftNonzero rightNonzero
      have inLeft := RoundingInterval.contains_shortest leftCanonical
        (Nat.pos_of_ne_zero leftNonzero)
      have inRight := RoundingInterval.contains_shortest rightCanonical
        (Nat.pos_of_ne_zero rightNonzero)
      rw [← same] at inRight
      exact RoundingInterval.eq_of_contains leftCanonical rightCanonical inLeft inRight
  cases left
  cases right
  simp_all

/-- A sign in front of a text. -/
def signText (negative : Bool) : String :=
  if negative then "-" else ""

/-- The literal of a finite double is its sign in front of a decimal. -/
theorem literal_of_decode? {value : Float} {parts : Scaled}
    (decoded : decode? value = some parts) :
    ∃ body written, literal value = signText parts.negative ++ body
      ∧ decimal? body.toList = some written ∧ written.toRat = parts.written
      ∧ ∀ char ∈ body.toList, isLiteralChar char := by
  simp only [literal, decoded, Scaled.written, signText]
  split
  · exact ⟨"0.0", ⟨0, -1⟩, rfl, rfl, by simp [Decimal.toRat],
      List.all_eq_true.1 (by decide)⟩
  · split
    · exact ⟨_, _, rfl, decimal?_scientific _, rfl, isLiteralChar_of_mem_scientific⟩
    · split
      · rename_i whole
        obtain ⟨written, numeral, same⟩ := numeral_positional_point whole
        exact ⟨_, written, by rw [String.append_assoc], numeral.decimal?_eq, same,
          numeral.isLiteralChar⟩
      · obtain ⟨written, numeral, same⟩ := numeral_positional parts.shortest
        exact ⟨_, written, rfl, numeral.decimal?_eq, same, numeral.isLiteralChar⟩

/-- What is written for a decimal begins with no sign. -/
theorem head?_ne_of_decimal? {chars : List Char} {written : Decimal}
    (reads : decimal? chars = some written) : chars.head? ≠ some '-' := by
  intro begins
  obtain ⟨rest, rfl⟩ := List.head?_eq_some_iff.1 begins
  simp [decimal?, Mantissa.split] at reads

/-- A text is parted from the sign in front of it. -/
theorem signText_append_injective {left right : Bool} {leftBody rightBody : String}
    (leftUnsigned : leftBody.toList.head? ≠ some '-')
    (rightUnsigned : rightBody.toList.head? ≠ some '-')
    (same : signText left ++ leftBody = signText right ++ rightBody) :
    left = right ∧ leftBody = rightBody := by
  have chars : (signText left ++ leftBody).toList = (signText right ++ rightBody).toList := by
    rw [same]
  rw [String.toList_append, String.toList_append] at chars
  cases left <;> cases right
  · exact ⟨rfl, String.toList_inj.1 (by simpa [signText] using chars)⟩
  · have begins : leftBody.toList = '-' :: rightBody.toList := by simpa [signText] using chars
    simp [begins] at leftUnsigned
  · have begins : rightBody.toList = '-' :: leftBody.toList := by
      simpa [signText] using chars.symm
    simp [begins] at rightUnsigned
  · exact ⟨rfl, String.toList_inj.1 (by simpa [signText] using chars)⟩

/-- The text of a double that is not finite is a sign in front of a word. -/
theorem nonFinite_of_undecoded {value : Float} (undecoded : decode? value = none) :
    ∃ negative body, nonFinite value = signText negative ++ body
      ∧ body.toList.head? ≠ some '-' ∧ decimal? body.toList = none := by
  rw [nonFinite_eq undecoded]
  split
  · split
    · exact ⟨true, "inf", by decide⟩
    · exact ⟨false, "inf", by decide⟩
  · exact ⟨false, "NaN", by decide⟩

/-- The text of a double that is not finite is no literal of a finite double. -/
theorem nonFinite_ne_literal {left right : Float} {parts : Scaled}
    (undecoded : decode? left = none) (decoded : decode? right = some parts) :
    nonFinite left ≠ literal right := by
  intro same
  obtain ⟨negative, word, text_eq, unsigned, unread⟩ := nonFinite_of_undecoded undecoded
  obtain ⟨body, written, literal_eq, reads, -, -⟩ := literal_of_decode? decoded
  rw [text_eq, literal_eq] at same
  obtain ⟨-, rfl⟩ := signText_append_injective unsigned (head?_ne_of_decimal? reads) same
  rw [unread] at reads
  contradiction

/-- Literals are made of letters, digits, points and signs. -/
theorem isLiteralChar_of_mem_literal {value : Float} :
    ∀ char ∈ (literal value).toList, isLiteralChar char := by
  cases decoded : decode? value with
  | none =>
    have text_eq : literal value = nonFinite value := by simp only [literal, decoded]
    rw [text_eq, nonFinite_eq decoded]
    split_ifs <;> exact List.all_eq_true.1 (by decide)
  | some parts =>
    obtain ⟨body, written, literal_eq, -, -, bodyChars⟩ := literal_of_decode? decoded
    rw [literal_eq, String.toList_append]
    intro char member
    rcases List.mem_append.1 member with inSign | inBody
    · cases negative : parts.negative with
      | true =>
        rw [negative] at inSign
        rw [List.mem_singleton.1 inSign]
        rfl
      | false => simp [negative, signText] at inSign
    · exact bodyChars char inBody

/-- A double is determined by its literal. -/
theorem literal_injective {left right : Float} (same : literal left = literal right) :
    left = right := by
  cases leftDecoded : decode? left with
  | none =>
    have leftText : literal left = nonFinite left := by simp only [literal, leftDecoded]
    cases rightDecoded : decode? right with
    | none =>
      have rightText : literal right = nonFinite right := by simp only [literal, rightDecoded]
      exact nonFinite_injective leftDecoded rightDecoded (leftText ▸ rightText ▸ same)
    | some rightParts =>
      exact absurd (leftText ▸ same) (nonFinite_ne_literal leftDecoded rightDecoded)
  | some leftParts =>
    cases rightDecoded : decode? right with
    | none =>
      have rightText : literal right = nonFinite right := by simp only [literal, rightDecoded]
      exact absurd (rightText ▸ same.symm) (nonFinite_ne_literal rightDecoded leftDecoded)
    | some rightParts =>
      obtain ⟨leftBody, leftWritten, leftText, leftReads, leftSame, -⟩ :=
        literal_of_decode? leftDecoded
      obtain ⟨rightBody, rightWritten, rightText, rightReads, rightSame, -⟩ :=
        literal_of_decode? rightDecoded
      rw [leftText, rightText] at same
      obtain ⟨signs, rfl⟩ := signText_append_injective (head?_ne_of_decimal? leftReads)
        (head?_ne_of_decimal? rightReads) same
      obtain rfl := Option.some.inj (leftReads.symm.trans rightReads)
      obtain rfl := eq_of_written_eq (canonical_of_decode? leftDecoded)
        (canonical_of_decode? rightDecoded) signs (leftSame.symm.trans rightSame)
      exact decode?_injective leftDecoded rightDecoded

/-- The shortest text of a finite double without a sign is a numeral. -/
theorem numeral_text {value : Float} {parts : Scaled} (decoded : decode? value = some parts)
    (unsigned : parts.negative = false) :
    ∃ written, Numeral (text value).toList written ∧ written.toRat = parts.written := by
  simp only [text, decoded, unsigned, Scaled.written]
  split
  · exact ⟨⟨0, 0⟩, Numeral.whole (isDigit_of_mem_zeros 1) (by simp), by simp [Decimal.toRat]⟩
  · simpa using numeral_positional parts.shortest

/-- Finite doubles without a sign are determined by their shortest texts. -/
theorem text_injective {left right : Float} {leftParts rightParts : Scaled}
    (leftDecoded : decode? left = some leftParts) (rightDecoded : decode? right = some rightParts)
    (leftUnsigned : leftParts.negative = false) (rightUnsigned : rightParts.negative = false)
    (same : text left = text right) : left = right := by
  obtain ⟨leftWritten, leftNumeral, leftSame⟩ := numeral_text leftDecoded leftUnsigned
  obtain ⟨rightWritten, rightNumeral, rightSame⟩ := numeral_text rightDecoded rightUnsigned
  have writtenEq : some leftWritten = some rightWritten := by
    rw [← leftNumeral.decimal?_eq, ← rightNumeral.decimal?_eq, same]
  obtain rfl := Option.some.inj writtenEq
  obtain rfl := eq_of_written_eq (canonical_of_decode? leftDecoded)
    (canonical_of_decode? rightDecoded) (leftUnsigned.trans rightUnsigned.symm)
    (leftSame.symm.trans rightSame)
  exact decode?_injective leftDecoded rightDecoded

end Workings.Number
