import Mathlib.Data.List.TakeWhile
import Workings.Calculus.Shape
import Workings.Proofs.Calculus.Excerpt
import Workings.Proofs.Calculus.Splitting

/-!
# Terms that the rules of calculus know

The rules recognize powers of the letter, constants and products of two factors by their text alone.
In an excerpt of a polynomial in which parentheses match, what they recognize writes what it looks
like: there are no digits but the plain ones, no exponent is negative, and the parentheses that a
power may stand in are a pair.
-/

namespace Workings.Calculus

open Polynomial
open Lexer (EndsNumber)
open Workings.Expr (Balanced Sheltered)

/-! ## Constants -/

/-- Digits of a value that can be counted in doubles. -/
structure Literal where
  digits : List Char
  areDigits : ∀ char ∈ digits, char.isDigit
  nonempty : digits ≠ []
  small : Number.valueOfDigits digits < 2 ^ 53

/-- The value of the digits. -/
def Literal.value (literal : Literal) : Nat :=
  Number.valueOfDigits literal.digits

/-- Digits behind a minus sign or without one. -/
structure Constant where
  negative : Bool
  literal : Literal

/-- How the constant is written. -/
def Constant.written (constant : Constant) : List Char :=
  if constant.negative then '-' :: constant.literal.digits else constant.literal.digits

/-- The value of the constant. -/
def Constant.value (constant : Constant) : Int :=
  if constant.negative then -constant.literal.value else constant.literal.value

variable {R : Type} [CommRing R] {letter : Char} {chars rest : List Char}

/-- Digits write the constant of their value. -/
theorem Literal.writes (literal : Literal) :
    Writes letter EndsNumber .primary literal.digits (literal.value : R[X]) :=
  writes_digits literal.areDigits literal.nonempty literal.small.le

/-- Digits are the whole number of their value. -/
theorem Literal.writesCount (literal : Literal) :
    WritesCount EndsNumber literal.digits literal.value :=
  writesCount_digits literal.areDigits literal.nonempty literal.small.le

/-- A whole number is written by the digits of its value. -/
theorem digits_toString (count : Nat) :
    (∀ char ∈ (toString (count : Int)).toList, char.isDigit)
      ∧ (toString (count : Int)).toList ≠ []
      ∧ Number.valueOfDigits (toString (count : Int)).toList = count := by
  have written : (toString (count : Int)).toList = Nat.toDigits 10 count := Nat.toList_repr
  rw [written]
  exact ⟨fun _ => Number.isDigit_of_mem_toDigits, Nat.toDigits_ne_nil,
    Number.valueOfDigits_toDigits count⟩

/-- A whole number writes the constant. -/
theorem writes_toString {count : Nat} (small : count ≤ 2 ^ 53) :
    Writes letter EndsNumber .primary (toString (count : Int)).toList (count : R[X]) := by
  obtain ⟨areDigits, nonempty, value_eq⟩ := digits_toString count
  have writes := @writes_digits _ R _ letter areDigits nonempty (by rwa [value_eq])
  rwa [value_eq] at writes

/-- A whole number is what it was written for. -/
theorem writesCount_toString {count : Nat} (small : count ≤ 2 ^ 53) :
    WritesCount EndsNumber (toString (count : Int)).toList count := by
  obtain ⟨areDigits, nonempty, value_eq⟩ := digits_toString count
  have writes := writesCount_digits areDigits nonempty (by rwa [value_eq])
  rwa [value_eq] at writes

/-- A constant writes its value. -/
theorem Constant.writes (constant : Constant) :
    Writes letter EndsNumber .factor constant.written (constant.value : R[X]) := by
  have digits : Writes letter EndsNumber .primary constant.literal.digits
      (constant.literal.value : R[X]) := constant.literal.writes
  unfold written value
  split
  · simpa using digits.minus
  · simpa using digits.factor

/-! ## Recognizing constants -/

/-- In a polynomial, no digits but the plain ones are found. -/
theorem isDigit_of_isDecimalDigit (isLetter : Lexer.isLetter letter) {char : Char}
    (mark : IsMark letter char) (digit : Text.isDecimalDigit char) : char.isDigit := by
  have code : char.toNat < 0x660 := by
    rcases mark with plain | rfl | sign
    · have code := Number.isDigit_iff.1 plain
      omega
    · have code := Lexer.isLetter_iff.1 isLetter
      omega
    · have codes : "+-*^()".toList.all (·.toNat < 0x660) := by decide
      exact of_decide_eq_true (List.all_eq_true.1 codes char sign)
  have onlyPlain : ∀ range ∈ Text.decimalDigitRanges, range.1 < 0x660 → range = (0x30, 0x39) := by
    decide
  obtain ⟨range, member, low, high⟩ := Text.RangeTable.has_iff.1 digit
  obtain rfl := onlyPlain range member (by omega)
  exact Number.isDigit_iff.2 ⟨low, high⟩

/-- Digits at the beginning of an excerpt are a literal. -/
theorem exists_literal (isLetter : Lexer.isLetter letter) (excerpt : Excerpt letter chars)
    (nonempty : chars.takeWhile Text.isDecimalDigit ≠ []) :
    ∃ literal : Literal, literal.digits = chars.takeWhile Text.isDecimalDigit := by
  have front := excerpt.cut (List.takeWhile_prefix (l := chars) Text.isDecimalDigit).isInfix
  have areDigits : ∀ char ∈ chars.takeWhile Text.isDecimalDigit, char.isDigit :=
    fun char member => isDigit_of_isDecimalDigit isLetter (front.marks char member)
      (List.mem_takeWhile_imp member)
  have small := front.small _ List.infix_rfl areDigits
  exact ⟨⟨_, areDigits, nonempty, small⟩, rfl⟩

/-- A whole number that is taken off an excerpt is a constant. -/
theorem of_takeInteger? (isLetter : Lexer.isLetter letter) (excerpt : Excerpt letter chars)
    {integer : List Char} (taken : takeInteger? chars = some (integer, rest)) :
    ∃ constant : Constant, integer = constant.written ∧ chars = constant.written ++ rest := by
  unfold takeInteger? at taken
  split at taken
  rename_i sign behind parted
  dsimp only at taken
  split at taken
  · contradiction
  · rename_i some_digit
    obtain ⟨rfl, rfl⟩ := Prod.mk.inj (Option.some.inj taken)
    have nonempty : behind.takeWhile Text.isDecimalDigit ≠ [] := by
      rwa [List.isEmpty_iff] at some_digit
    split at parted <;> obtain ⟨rfl, rfl⟩ := Prod.mk.inj parted
    · obtain ⟨literal, same⟩ := exists_literal isLetter
        (excerpt.cut (List.suffix_cons _ _).isInfix) nonempty
      refine ⟨⟨true, literal⟩, ?_⟩
      simp [Constant.written, same, List.takeWhile_append_dropWhile]
    · obtain ⟨literal, same⟩ := exists_literal isLetter excerpt nonempty
      refine ⟨⟨false, literal⟩, ?_⟩
      simp [Constant.written, same, List.takeWhile_append_dropWhile]

/-- A number in a polynomial is a constant. -/
theorem exists_constant (isLetter : Lexer.isLetter letter) (excerpt : Excerpt letter chars)
    (number : isNumber chars) : ∃ constant : Constant, constant.written = chars := by
  unfold isNumber at number
  split at number
  · contradiction
  · rename_i taken
    obtain ⟨constant, -, whole⟩ := of_takeInteger? isLetter excerpt taken
    exact ⟨constant, by rw [whole, List.append_nil]⟩
  · rename_i taken
    obtain ⟨constant, -, whole⟩ := of_takeInteger? isLetter excerpt taken
    have point : IsMark letter '.' := excerpt.marks '.' (by simp [whole])
    rcases point with digit | rfl | sign <;> contradiction
  · contradiction

/-! ## Recognizing powers -/

/-- A text in parentheses or without. -/
def grouped (around : Bool) (chars : List Char) : List Char :=
  if around then '(' :: (chars ++ [')']) else chars

/-- The letter with a whole number as exponent. Each of them may stand in parentheses. -/
structure Power where
  around : Bool
  inside : Bool
  exponent : Literal

/-- How the power of a letter is written. -/
def Power.written (letter : Char) (power : Power) : List Char :=
  grouped power.around (letter :: '^' :: grouped power.inside power.exponent.digits)

/-- A power of the letter writes the power of the indeterminate. -/
theorem Power.writes (isLetter : Lexer.isLetter letter) (power : Power) :
    Writes letter EndsWord .factor (power.written letter) (X ^ power.exponent.value : R[X]) := by
  obtain ⟨around, inside, exponent⟩ := power
  have counts : WritesCount EndsWord (grouped inside exponent.digits) exponent.value := by
    have digits := exponent.writesCount.word
    cases inside with
    | false => exact digits
    | true => exact digits.paren
  have bare : Writes letter EndsWord .factor
      (letter :: '^' :: grouped inside exponent.digits) (X ^ exponent.value : R[X]) :=
    (writes_letter isLetter).power counts
  cases around with
  | false => exact bare
  | true => exact bare.product.expression.paren.factor

/-- As many parentheses are opened as closed, if they match. -/
theorem count_eq_of_sheltered {stops : Char → Bool} (sheltered : Sheltered stops chars) :
    chars.count '(' = chars.count ')' := by
  induction sheltered with
  | nil => rfl
  | @plain _ char _ noParen _ _ hypothesis =>
    simp only [Lexer.isParen, Bool.or_eq_true, decide_eq_true_eq, not_or] at noParen
    rwa [List.count_cons_of_ne noParen.1, List.count_cons_of_ne noParen.2]
  | group _ _ innerHypothesis hypothesis =>
    simp [innerHypothesis, hypothesis]
    omega

/-- A character that is dropped stands at the beginning. -/
theorem exists_dropOne (char : Char) (chars : List Char) :
    ∃ dropped : Bool, chars = (if dropped then [char] else []) ++ dropOne char chars := by
  cases chars with
  | nil => exact ⟨false, rfl⟩
  | cons first rest =>
    by_cases same : first = char
    · exact ⟨true, by simp [dropOne, same]⟩
    · exact ⟨false, by simp [dropOne, same]⟩

/-- A constant that does not begin with a minus sign is a literal. -/
theorem Constant.written_of_not_minus {constant : Constant}
    (noMinus : ¬ ['-'] <+: constant.written ++ rest) :
    constant.written = constant.literal.digits := by
  cases negative : constant.negative with
  | true => simp [written, negative] at noMinus
  | false => simp [written, negative]

/-- An exponent in a polynomial is a whole number, in parentheses or without. A closing parenthesis
may follow it. -/
theorem of_takeExponent? (isLetter : Lexer.isLetter letter)
    (excerpt : Excerpt letter ('^' :: chars)) {exponent : List Char}
    (taken : takeExponent? chars = some exponent) :
    ∃ (literal : Literal) (inside closed : Bool), exponent = literal.digits
      ∧ chars = grouped inside literal.digits ++ if closed then [')'] else [] := by
  obtain ⟨noMinus, noMinusInside⟩ := (noNegativePower_cons.1 excerpt.noNegativePower).1 rfl
  have behind : Excerpt letter chars := excerpt.cut (List.suffix_cons _ _).isInfix
  have ends {digits following : List Char}
      (last : (if (dropOne ')' following).isEmpty then some digits else none) = some exponent) :
      exponent = digits ∧ ∃ closed : Bool, following = if closed then [')'] else [] := by
    split at last
    · rename_i nothing
      obtain ⟨closed, whole⟩ := exists_dropOne ')' following
      rw [List.isEmpty_iff.1 nothing, List.append_nil] at whole
      exact ⟨(Option.some.inj last).symm, closed, whole⟩
    · contradiction
  simp only [takeExponent?, Option.bind_eq_bind] at taken
  split at taken
  -- the text goes on behind a caret, where no constant of a polynomial has a minus sign
  · obtain ⟨⟨digits, following⟩, found, last⟩ := Option.bind_eq_some_iff.1 taken
    split at last
    · rename_i closing
      obtain rfl : following = ')' :: _ := closing
      obtain ⟨constant, rfl, rfl⟩ := of_takeInteger? isLetter
        (behind.cut (List.suffix_cons _ _).isInfix) found
      obtain ⟨rfl, closed, rfl⟩ := ends last
      rw [List.cons_prefix_cons, not_and] at noMinusInside
      have digits := Constant.written_of_not_minus (noMinusInside rfl)
      refine ⟨constant.literal, true, closed, digits, ?_⟩
      simp [grouped, digits]
    · contradiction
  · obtain ⟨⟨digits, following⟩, found, last⟩ := Option.bind_eq_some_iff.1 taken
    obtain ⟨constant, rfl, rfl⟩ := of_takeInteger? isLetter behind found
    obtain ⟨rfl, closed, rfl⟩ := ends last
    have digits := Constant.written_of_not_minus noMinus
    exact ⟨constant.literal, false, closed, digits, by rw [digits]; rfl⟩

/-- Digits are the exponent of their value. -/
theorem exponentValue?_literal (literal : Literal) :
    exponentValue? literal.digits = some (literal.value : Int) := by
  have noSign (sign : Char) (noDigit : sign.isDigit = false) (others : List Char) :
      literal.digits ≠ sign :: others := by
    intro same
    rw [literal.areDigits sign (by simp [same])] at noDigit
    contradiction
  have unsigned : Number.splitSign literal.digits = (false, literal.digits) := by
    unfold Number.splitSign
    split
    · rename_i minus
      exact absurd minus (noSign '-' (by decide) _)
    · rename_i plus
      exact absurd plus (noSign '+' (by decide) _)
    · rfl
  have allDigits : literal.digits.all Char.isDigit := by simpa using literal.areDigits
  have nonempty : literal.digits.isEmpty = false := by simpa using literal.nonempty
  have small : literal.value < 2 ^ 53 := literal.small
  have range : leastExponent ≤ literal.value ∧ (literal.value : Int) ≤ greatestExponent := by
    simp only [leastExponent, greatestExponent]
    omega
  simp only [exponentValue?, unsigned, allDigits, nonempty]
  exact if_pos range

/-- A text that is a power of a name begins with the name, behind a parenthesis or without one. -/
theorem of_powerText? {name exponent : List Char}
    (found : powerText? chars = some (name, exponent)) :
    ∃ (opened : Bool) (rest : List Char),
      chars = (if opened then ['('] else []) ++ (name ++ '^' :: rest)
        ∧ takeExponent? rest = some exponent := by
  obtain ⟨opened, whole⟩ := exists_dropOne '(' chars
  simp only [powerText?] at found
  split at found
  · rename_i first others rest taken dropped
    split at found
    · obtain ⟨exponent', isExponent, same⟩ := Option.bind_eq_some_iff.1 found
      obtain ⟨rfl, rfl⟩ := Prod.mk.inj (Option.some.inj same)
      refine ⟨opened, rest, ?_, isExponent⟩
      rw [← dropped, List.takeWhile_append_dropWhile]
      exact whole
    · contradiction
  · contradiction

/-- What is recognized as a power of the letter is one. -/
theorem exists_power (isLetter : Lexer.isLetter letter) (excerpt : Excerpt letter chars)
    (balanced : Balanced chars) {exponent : Int} (found : powerOf? [letter] chars = some exponent) :
    ∃ power : Power, power.written letter = chars ∧ (power.exponent.value : Int) = exponent := by
  obtain ⟨⟨name, digits⟩, isPower, value⟩ := Option.bind_eq_some_iff.1 found
  dsimp only at value
  split at value
  · rename_i isName
    obtain rfl : name = [letter] := isName
    obtain ⟨opened, rest, rfl, isExponent⟩ := of_powerText? isPower
    have behind : '^' :: rest <:+: (if opened then ['('] else []) ++ ([letter] ++ '^' :: rest) :=
      ⟨(if opened then ['('] else []) ++ [letter], [], by simp⟩
    obtain ⟨literal, inside, closed, rfl, rfl⟩ :=
      of_takeExponent? isLetter (excerpt.cut behind) isExponent
    rw [exponentValue?_literal] at value
    have noParen (paren : Char) (noDigit : paren.isDigit = false) :
        literal.digits.count paren = 0 := by
      refine List.count_eq_zero.2 fun member => ?_
      rw [literal.areDigits paren member] at noDigit
      contradiction
    have notOpening : letter ≠ '(' := by rintro rfl; contradiction
    have notClosing : letter ≠ ')' := by rintro rfl; contradiction
    -- the parenthesis in front of the letter is closed at the end, or neither is there
    have pair : opened = closed := by
      have counts := count_eq_of_sheltered balanced
      have noOpening := noParen '(' (by decide)
      have noClosing := noParen ')' (by decide)
      cases opened <;> cases inside <;> cases closed <;>
        simp_all [grouped]
    refine ⟨⟨opened, inside, literal⟩, ?_, Option.some.inj value⟩
    subst pair
    cases opened <;> simp [Power.written, grouped]
  · contradiction

/-! ## Recognizing sums and products -/

/-- The addends are the parts of a text. -/
theorem of_addends? {parts : List (List Char)} (found : addends? chars = some parts) :
    splitTop '+' chars = parts := by
  unfold addends? at found
  dsimp only at found
  split at found
  · contradiction
  · exact Option.some.inj found

/-- Two factors are the parts of a text, with the product sign between them. -/
theorem of_twoFactors? {left right : List Char} (found : twoFactors? chars = some (left, right)) :
    splitTop '*' chars = [left, right] ∧ chars = left ++ '*' :: right := by
  unfold twoFactors? at found
  split at found
  · rename_i splits
    split at found
    · contradiction
    · obtain ⟨rfl, rfl⟩ := Prod.mk.inj (Option.some.inj found)
      have joined := intercalate_splitTop '*' chars
      rw [splits] at joined
      exact ⟨splits, by simpa [List.intercalate] using joined.symm⟩
  · contradiction

/-- The factors of an excerpt are excerpts. -/
theorem Excerpt.factors (excerpt : Excerpt letter chars) {left right : List Char}
    (found : twoFactors? chars = some (left, right)) :
    chars = left ++ '*' :: right ∧ Excerpt letter left ∧ Excerpt letter right := by
  obtain ⟨-, rfl⟩ := of_twoFactors? found
  exact ⟨rfl, excerpt.cut (List.prefix_append _ _).isInfix,
    excerpt.cut ((List.suffix_cons _ _).trans (List.suffix_append _ _)).isInfix⟩

/-! ## Tables of functions -/

/-- The only letter in a polynomial is its own. -/
theorem IsMark.eq_letter {char : Char} (mark : IsMark letter char)
    (isLetter : Lexer.isLetter char) : char = letter := by
  rcases mark with digit | same | sign
  · rw [Lexer.not_isDigit_of_isLetter isLetter] at digit
    contradiction
  · exact same
  · have noLetter : "+-*^()".toList.all (! Lexer.isLetter ·) := by decide
    have signNoLetter := List.all_eq_true.1 noLetter char sign
    rw [isLetter] at signNoLetter
    contradiction

/-- A text with two letters is made of more than a polynomial is. -/
theorem exists_not_isMark (first second : Char)
    (letters : first ∈ chars ∧ second ∈ chars ∧ first ≠ second ∧ Lexer.isLetter first
      ∧ Lexer.isLetter second) : ∃ char ∈ chars, ¬ IsMark letter char := by
  obtain ⟨isFirst, isSecond, different, firstLetter, secondLetter⟩ := letters
  by_cases mark : IsMark letter first
  · refine ⟨second, isSecond, fun mark' => different ?_⟩
    exact (mark.eq_letter firstLetter).trans (mark'.eq_letter secondLetter).symm
  · exact ⟨first, isFirst, mark⟩

/-- A slash stands in no polynomial. -/
theorem not_isMark_slash (isLetter : Lexer.isLetter letter) : ¬ IsMark letter '/' := by
  rintro (digit | rfl | sign) <;> contradiction

/-- A polynomial is no key of a table in which each key is made of more. -/
theorem lookup_eq_none {table : List (List Char × List Char)}
    (marks : ∀ char ∈ chars, IsMark letter char)
    (more : ∀ entry ∈ table, ∃ char ∈ entry.1, ¬ IsMark letter char) :
    table.lookup chars = none := by
  rw [List.lookup_eq_none_iff]
  intro entry member
  obtain ⟨char, inside, noMark⟩ := more entry member
  simp only [bne_iff_ne]
  rintro rfl
  exact noMark (marks char inside)

end Workings.Calculus
