import Workings.Calculus.Integration
import Workings.Proofs.Calculus.Parts
import Workings.Proofs.Calculus.Terms

/-!
# Integrals of polynomials

Every rule of integration that applies to an excerpt of a polynomial answers for what the excerpt
writes. So if there is an answer without the sign of an integral, the text of the polynomial was put
together from such excerpts by plus signs, and it is read the same way: no plus sign between them is
the sign of an operand, because each of them is a text that writes a product.
-/

namespace Workings.Calculus

open Polynomial
open Workings.Expr (Algebraic Balanced Denotes Reads plain)

variable {letter : Char} {chars : List Char}

/-- A text that writes an integral of what another text writes, with rational coefficients. -/
def Integrates (letter : Char) (chars result : List Char) : Prop :=
  ∃ whole : ℚ[X], Writes letter EndsWord (.chain .factor) chars (derivative whole)
    ∧ Writes letter EndsWord (.chain .factor) result whole

/-- A slash behind a number writes the quotient by a whole number. -/
theorem Writes.divided {ends : List Char → Prop} {value : ℚ[X]} {divisor : List Char} {count : Nat}
    (nonzero : count ≠ 0)
    (writes : Writes letter Lexer.EndsNumber (.chain .factor) chars value)
    (counts : WritesCount ends divisor count) :
    Writes letter ends (.chain .factor) (chars ++ '/' :: divisor) (C (count : ℚ)⁻¹ * value) := by
  have cancels : (count : ℚ[X]) * (C (count : ℚ)⁻¹ * value) = value := by
    rw [← mul_assoc, ← map_natCast C, ← C_mul, mul_inv_cancel₀ (Nat.cast_ne_zero.2 nonzero), C_1,
      one_mul]
  exact .over nonzero (by rwa [cancels]) counts

/-! ## Terms -/

/-- The exponent of a square. -/
theorem writesCount_two : WritesCount Lexer.EndsNumber ['2'] 2 :=
  writesCount_digits (List.forall_mem_singleton.2 (by decide)) (by decide) (by decide)

/-- The integral of a power of the letter. -/
theorem writes_powerIntegral (isLetter : Lexer.isLetter letter) {count : Nat}
    {digits : List Char} (counts : WritesCount Lexer.EndsNumber digits (count + 1)) :
    Writes letter EndsWord (.chain .factor) ([letter] ++ '^' :: digits ++ '/' :: digits)
      (C ((count + 1 : Nat) : ℚ)⁻¹ * X ^ (count + 1)) :=
  .divided (Nat.succ_ne_zero count) ((writes_letter isLetter).power counts).product counts.word

/-- The integral of a power is one. -/
theorem derivative_powerIntegral (count : Nat) :
    derivative (C ((count + 1 : Nat) : ℚ)⁻¹ * X ^ (count + 1)) = X ^ count := by
  have nonzero : ((count + 1 : Nat) : ℚ) ≠ 0 := Nat.cast_ne_zero.2 (Nat.succ_ne_zero count)
  rw [derivative_C_mul, derivative_X_pow, Nat.add_sub_cancel, ← mul_assoc, ← C_mul,
    inv_mul_cancel₀ nonzero, C_1, one_mul]

/-- The integral of a power of the letter is found. -/
theorem powerIntegral_eq {count : Nat} (small : count < 2 ^ 53) :
    powerIntegral [letter] count = .ok
      ([letter] ++ '^' :: (toString ((count + 1 : Nat) : Int)).toList
        ++ '/' :: (toString ((count + 1 : Nat) : Int)).toList) := by
  have raised : exponentAbove count = .ok ((count + 1 : Nat) : Int) := by
    have different : (count : Int) ≠ greatestExponent := by
      unfold greatestExponent
      omega
    rw [exponentAbove, if_neg different]
    rfl
  rw [powerIntegral, if_neg (by omega), raised]
  rfl

/-- The integral of a power of the letter, a constant or the letter itself is found and right. -/
theorem simpleIntegral_sound (isLetter : Lexer.isLetter letter) (excerpt : Excerpt letter chars)
    (balanced : Balanced chars) :
    ∃ found, simpleIntegral [letter] chars = .ok found
      ∧ ∀ result ∈ found, Integrates letter chars result := by
  unfold simpleIntegral
  split
  · rename_i exponent isPower
    obtain ⟨power, rfl, rfl⟩ := exists_power isLetter excerpt balanced isPower
    have small : power.exponent.value < 2 ^ 53 := power.exponent.small
    refine ⟨_, by rw [powerIntegral_eq small]; rfl, ?_⟩
    rintro _ ⟨⟩
    refine ⟨_, ?_, writes_powerIntegral isLetter (writesCount_toString small)⟩
    rw [derivative_powerIntegral]
    exact (power.writes isLetter).product
  · split
    · rename_i number
      obtain ⟨constant, rfl⟩ := exists_constant isLetter excerpt number
      have writes : Writes letter EndsWord (.chain .factor) constant.written
          (constant.value : ℚ[X]) := constant.writes.product.word
      refine ⟨_, rfl, ?_⟩
      rintro _ ⟨⟩
      refine ⟨(constant.value : ℚ[X]) * X, by simpa using writes, ?_⟩
      exact writes.times (writes_letter isLetter).factor
    · split
      · rename_i isName
        refine ⟨_, rfl, ?_⟩
        rintro _ ⟨⟩
        refine ⟨_, ?_, writes_powerIntegral isLetter writesCount_two⟩
        rw [derivative_powerIntegral, pow_one, isName]
        exact (writes_letter isLetter).factor.product
      · exact ⟨none, rfl, by simp⟩

/-- The integral of a constant times the letter. -/
theorem writes_scaledIntegral (isLetter : Lexer.isLetter letter) (constant : Constant) :
    Writes letter EndsWord (.chain .factor) (constant.written ++ '*' :: [letter] ++ "^2/2".toList)
      (C (2 : ℚ)⁻¹ * ((constant.value : ℚ[X]) * X ^ 2)) := by
  have number : Writes letter EndsWord (.chain .factor) constant.written
      (constant.value : ℚ[X]) := constant.writes.product.word
  have product := number.times ((writes_letter isLetter).power writesCount_two)
  have whole := Writes.divided two_ne_zero product writesCount_two.word
  simpa using whole

/-- The integral of a constant times the letter is one. -/
theorem derivative_scaledIntegral (scale : ℤ) :
    derivative (C (2 : ℚ)⁻¹ * ((scale : ℚ[X]) * X ^ 2)) = (scale : ℚ[X]) * X := by
  have half : (C (2 : ℚ)⁻¹ : ℚ[X]) * C 2 = 1 := by
    rw [← C_mul, inv_mul_cancel₀ two_ne_zero, C_1]
  calc derivative (C (2 : ℚ)⁻¹ * ((scale : ℚ[X]) * X ^ 2))
      = C (2 : ℚ)⁻¹ * ((scale : ℚ[X]) * (C 2 * X)) := by
        rw [derivative_C_mul, derivative_intCast_mul, derivative_X_sq]
    _ = (C (2 : ℚ)⁻¹ * C 2) * ((scale : ℚ[X]) * X) := by ring
    _ = (scale : ℚ[X]) * X := by rw [half, one_mul]

/-- The integral of a product of the letter with a constant or with itself is right. -/
theorem productIntegral?_sound (isLetter : Lexer.isLetter letter) {left right : List Char}
    (leftExcerpt : Excerpt letter left) (rightExcerpt : Excerpt letter right) {result : List Char}
    (found : productIntegral? [letter] left right = some result) :
    Integrates letter (left ++ '*' :: right) result := by
  have name : Writes letter EndsWord .factor [letter] (X : ℚ[X]) := (writes_letter isLetter).factor
  have number (constant : Constant) :
      Writes letter EndsWord .factor constant.written (constant.value : ℚ[X]) :=
    constant.writes.word
  unfold productIntegral? at found
  split at found
  · rename_i shape
    obtain ⟨rfl, isNumber⟩ := shape
    obtain ⟨constant, rfl⟩ := exists_constant isLetter rightExcerpt isNumber
    obtain rfl := Option.some.inj found
    refine ⟨_, ?_, writes_scaledIntegral isLetter constant⟩
    rw [derivative_scaledIntegral, mul_comm]
    exact name.product.times (number constant)
  · split at found
    · rename_i shape
      obtain ⟨rfl, isNumber⟩ := shape
      obtain ⟨constant, rfl⟩ := exists_constant isLetter leftExcerpt isNumber
      obtain rfl := Option.some.inj found
      refine ⟨_, ?_, writes_scaledIntegral isLetter constant⟩
      rw [derivative_scaledIntegral]
      exact (number constant).product.times name
    · split at found
      · rename_i shape
        obtain ⟨rfl, rfl⟩ := shape
        obtain rfl := Option.some.inj found
        have three : WritesCount Lexer.EndsNumber ['3'] 3 :=
          writesCount_digits (List.forall_mem_singleton.2 (by decide)) (by decide) (by decide)
        refine ⟨_, ?_, writes_powerIntegral isLetter three⟩
        rw [derivative_powerIntegral, pow_two]
        exact name.product.times name
      · contradiction

/-- The integral of a text that is such a product is right. -/
theorem integrates_of_twoFactors? (isLetter : Lexer.isLetter letter)
    (excerpt : Excerpt letter chars) {left right result : List Char}
    (factors : twoFactors? chars = some (left, right))
    (found : productIntegral? [letter] left right = some result) :
    Integrates letter chars result := by
  obtain ⟨rfl, leftExcerpt, rightExcerpt⟩ := excerpt.factors factors
  exact productIntegral?_sound isLetter leftExcerpt rightExcerpt found

/-! ## Sums -/

/-- The integral of an addend is found. It is right if it is taken. -/
theorem addendIntegral_sound (isLetter : Lexer.isLetter letter) (excerpt : Excerpt letter chars)
    (balanced : Balanced chars) :
    ∃ result, addendIntegral [letter] chars = .ok result
      ∧ ('∫' ∉ result → Integrates letter chars result) := by
  obtain ⟨found, simple, sound⟩ := simpleIntegral_sound isLetter excerpt balanced
  simp only [addendIntegral, simple, bind, Except.bind]
  cases found with
  | some result => exact ⟨result, rfl, fun _ => sound result rfl⟩
  | none =>
    have untaken : '∫' ∈ integralOf [letter] chars := List.mem_cons_self
    cases factors : twoFactors? chars with
    | none => exact ⟨_, rfl, fun taken => absurd untaken taken⟩
    | some both =>
      obtain ⟨left, right⟩ := both
      cases rule : productIntegral? [letter] left right with
      | none =>
        exact ⟨_, by simp only [Option.bind_some, rule]; rfl, fun taken => absurd untaken taken⟩
      | some result =>
        exact ⟨result, by simp only [Option.bind_some, rule]; rfl, fun _ =>
          integrates_of_twoFactors? isLetter excerpt factors rule⟩

/-- The integral of a sum is found part by part. It is right if it is taken for every part. -/
theorem addends_sound (isLetter : Lexer.isLetter letter) (excerpt : Excerpt letter chars)
    (balanced : Balanced chars) {parts : List (List Char)} (found : addends? chars = some parts) :
    ∃ results, parts.mapM (addendIntegral [letter]) = .ok results
      ∧ ('∫' ∉ " + ".toList.intercalate results → ∃ whole : ℚ[X],
        Writes letter EndsWord .expression chars (derivative whole)
          ∧ Writes letter EndsWord .expression (" + ".toList.intercalate results) whole) := by
  have plusSign : ¬ Lexer.isParen '+' := by decide
  obtain rfl := of_addends? found
  obtain ⟨results, answers, related⟩ := exists_mapM fun part member =>
    addendIntegral_sound isLetter (excerpt.cut (infix_of_mem_splitTop member))
      (balanced_of_mem_splitTop plusSign balanced part member)
  refine ⟨results, answers, fun taken => ?_⟩
  have noSign : ∀ result ∈ results, '∫' ∉ result := fun result member inside =>
    taken ((infix_intercalate member).subset inside)
  have integrates : List.Forall₂ (Integrates letter) (splitTop '+' chars) results :=
    (((List.forall₂_and_left _ _).2 ⟨noSign, related.flip⟩).imp fun _ _ both =>
      both.2 both.1).flip
  obtain ⟨wholes, write, resultsWrite⟩ := exists_between integrates
  have nonempty : results ≠ [] := by
    rintro rfl
    exact splitTop_ne_nil '+' chars (List.forall₂_nil_right_iff.1 integrates)
  refine ⟨wholes.sum, ?_, Writes.intercalate Writes.spaced nonempty resultsWrite⟩
  -- the text is put together again from its parts, each of which writes a product
  have joined := @Writes.intercalate ℚ _ letter ['+'] (fun left right => left.plus right) _ _
    (splitTop_ne_nil '+' chars) (List.forall₂_map_right_iff.2 write)
  rw [map_list_sum]
  rwa [intercalate_splitTop] at joined

/-! ## Whole expressions -/

/-- The table of functions has no integral of a polynomial. -/
theorem lookup_integralTable (isLetter : Lexer.isLetter letter)
    (marks : ∀ char ∈ chars, IsMark letter char) :
    (integralTable [letter]).lookup chars = none := by
  refine lookup_eq_none marks ?_
  simp only [integralTable, List.forall_mem_cons]
  refine ⟨exists_not_isMark 's' 'i' ?_, exists_not_isMark 'c' 'o' ?_, exists_not_isMark 't' 'a' ?_,
    exists_not_isMark 'e' 'x' ?_, ⟨'/', by simp, not_isMark_slash isLetter⟩,
    exists_not_isMark 's' 'q' ?_, exists_not_isMark 'l' 'n' ?_, exists_not_isMark 'l' 'o' ?_,
    by simp⟩
  all_goals simp [Lexer.isLetter]

/-- The integral of a polynomial without blanks is found. It is right if it is taken. -/
theorem integrateChars_sound {expr : Expr} (algebraic : Algebraic letter expr)
    (isLetter : Lexer.isLetter letter) :
    ∃ result, integrateChars [letter] expr.text.toList = .ok result
      ∧ ('∫' ∉ result → ∃ (taken : List Char) (whole : ℚ[X]), result = withConstant taken
        ∧ Writes letter EndsWord .expression (plain expr) (derivative whole)
        ∧ Writes letter EndsWord .expression taken whole) := by
  have excerpt := algebraic.excerpt isLetter
  have balanced := algebraic.balanced isLetter
  have product {taken : List Char} (integrates : Integrates letter (plain expr) taken) :
      ∃ (taken' : List Char) (whole : ℚ[X]), withConstant taken = withConstant taken'
        ∧ Writes letter EndsWord .expression (plain expr) (derivative whole)
        ∧ Writes letter EndsWord .expression taken' whole := by
    obtain ⟨whole, writes, takenWrites⟩ := integrates
    exact ⟨taken, whole, rfl, writes.expression, takenWrites.expression⟩
  obtain ⟨found, simple, sound⟩ := simpleIntegral_sound isLetter excerpt balanced
  have same : Text.compact expr.text.toList = plain expr := rfl
  simp only [integrateChars, same, simple, bind, Except.bind]
  cases found with
  | some result => exact ⟨_, rfl, fun _ => product (sound result rfl)⟩
  | none =>
    cases sum : addends? (plain expr) with
    | some parts =>
      obtain ⟨results, answers, sound⟩ := addends_sound isLetter excerpt balanced sum
      refine ⟨_, by simp only [answers]; rfl, fun noSign => ?_⟩
      have taken : '∫' ∉ " + ".toList.intercalate results :=
        fun inside => noSign (List.mem_append_left _ inside)
      obtain ⟨whole, writes, resultsWrite⟩ := sound taken
      exact ⟨_, whole, rfl, writes, resultsWrite⟩
    | none =>
      have untaken : '∫' ∈ integralOf [letter] expr.text.toList := List.mem_cons_self
      cases factors : twoFactors? (plain expr) with
      | some both =>
        obtain ⟨left, right⟩ := both
        cases rule : productIntegral? [letter] left right with
        | some result =>
          refine ⟨withConstant result, by simp only [rule]; rfl, fun _ => product ?_⟩
          exact integrates_of_twoFactors? isLetter excerpt factors rule
        | none => exact ⟨_, by simp only [rule]; rfl, fun noSign => absurd untaken noSign⟩
      | none =>
        have unknown := lookup_integralTable isLetter excerpt.marks
        exact ⟨_, by simp only [unknown]; rfl, fun noSign => absurd untaken noSign⟩

/-- The integral of the text of a polynomial is found. If no sign of an integral is in it, it ends
in the constant of integration, and what stands in front is read as an expression that denotes a
polynomial with rational coefficients, whose formal derivative is what the text denotes. -/
theorem integrate_sound {source : List Char} {expr : Expr} (isLetter : Lexer.isLetter letter)
    (reads : Reads source expr) (polynomial : expr.IsPolynomial (String.singleton letter)) :
    ∃ answer, integrate (String.singleton letter) expr.text = .ok answer
      ∧ ('∫' ∉ answer.toList → ∃ (taken : String) (tree : Expr) (whole : ℚ[X]),
        answer = taken ++ " + C" ∧ Reads taken.toList tree
          ∧ tree.Denotes (String.singleton letter) whole
          ∧ expr.Denotes (String.singleton letter) (derivative whole)) := by
  have algebraic := reads.algebraic polynomial
  obtain ⟨result, found, sound⟩ := integrateChars_sound algebraic isLetter
  refine ⟨String.ofList result, ?_, fun noSign => ?_⟩
  · rw [integrate, String.toList_singleton, found]
    rfl
  · rw [String.toList_ofList] at noSign
    obtain ⟨taken, whole, rfl, writes, takenWrites⟩ := sound noSign
    obtain ⟨tree, treeReads, denotes⟩ := takenWrites.reads endsWord_nil
    refine ⟨String.ofList taken, tree, whole, ?_, by rwa [String.toList_ofList], denotes,
      writes.denotes endsWord_nil (algebraic.reads isLetter)⟩
    rw [← String.toList_inj]
    simp [withConstant]

/-- The integral of a sum of a power and a product, which is taken for both. -/
theorem integrate_sound_sum :
    ∃ expr, Reads "x ^ 2 + 2 * x".toList expr ∧ expr.IsPolynomial "x"
      ∧ integrate "x" expr.text = .ok "x^3/3 + 2*x^2/2 + C"
      ∧ ∃ (taken : String) (tree : Expr) (whole : ℚ[X]),
        "x^3/3 + 2*x^2/2 + C" = taken ++ " + C" ∧ Reads taken.toList tree
          ∧ tree.Denotes "x" whole ∧ expr.Denotes "x" (derivative whole) := by
  have accepts : Expr.readRegion 0 "x ^ 2 + 2 * x".toList 0 = .ok
      (.binary .plus
        (.binary .power (.symbol "x" ⟨0, 1⟩) (.number 2 ⟨4, 5⟩) ⟨0, 5⟩)
        (.binary .times (.number 2 ⟨8, 9⟩) (.symbol "x" ⟨12, 13⟩) ⟨8, 13⟩) ⟨0, 13⟩) := by
    rfl
  obtain ⟨found, scans, derives, -⟩ := Expr.derives_of_readRegion accepts
  have reads : Reads "x ^ 2 + 2 * x".toList _ := ⟨found, scans, derives⟩
  refine ⟨_, reads, ?polynomial, by rfl, ?sound⟩
  case polynomial =>
    exact ⟨⟨rfl, 2, by decide, Number.exactly_two⟩, ⟨2, by decide, Number.exactly_two⟩, rfl⟩
  case sound =>
    obtain ⟨answer, answers, sound⟩ := integrate_sound (show Lexer.isLetter 'x' by decide) reads
      ⟨⟨rfl, 2, by decide, Number.exactly_two⟩, ⟨2, by decide, Number.exactly_two⟩, rfl⟩
    obtain rfl : "x^3/3 + 2*x^2/2 + C" = answer := Except.ok.inj answers
    exact sound (by decide)

end Workings.Calculus
