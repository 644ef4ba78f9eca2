import Workings.Proofs.Calculus.Summands
import Workings.Proofs.Calculus.Terms

/-!
# Derivatives of polynomials

The rules of differentiation are right about terms, and a derivative that is not taken is right
about everything. So the derivative of a polynomial is right wherever its text is split where its
tree is: a sum at its plus signs, none of which may be the sign of an operand, and a product between
its two factors. A text that has one product sign outside parentheses is split there even if it is
no product, and then the answer is wrong.
-/

namespace Workings.Calculus

open Polynomial
open Workings.Expr (Algebraic Balanced Denotes Reads plain)

variable {R : Type} [CommRing R] {letter : Char} {chars : List Char} {value : R[X]}

/-- A text that writes a product by itself and also behind a product sign. -/
structure Multiplies (letter : Char) (chars : List Char) (value : R[X]) : Prop where
  alone : Writes letter EndsWord (.chain .factor) chars value
  behind : ∀ {left : List Char} {other : R[X]},
    Writes letter EndsWord (.chain .factor) left other →
      Writes letter EndsWord (.chain .factor) (left ++ '*' :: chars) (other * value)

/-- A factor may stand behind a product sign. -/
theorem Writes.multiplies (writes : Writes letter EndsWord .factor chars value) :
    Multiplies letter chars value where
  alone := writes.product
  behind leftWrites := leftWrites.times writes

/-- A product may stand behind a product sign if its first part may. -/
theorem Multiplies.times (multiplies : Multiplies letter chars value) {right : List Char}
    {other : R[X]} (rightWrites : Writes letter EndsWord .factor right other) :
    Multiplies letter (chars ++ '*' :: right) (value * other) where
  alone := multiplies.alone.times rightWrites
  behind leftWrites := by
    have joined := (multiplies.behind leftWrites).times rightWrites
    rwa [List.append_assoc, List.cons_append, mul_assoc] at joined

/-! ## Terms -/

/-- A whole number may stand behind a product sign. -/
theorem multiplies_toString (count : Nat) (small : count ≤ 2 ^ 53) :
    Multiplies letter (toString (count : Int)).toList (count : R[X]) :=
  (writes_toString small).factor.word.multiplies

/-- The derivative of a power of the letter above the first is found. -/
theorem powerDerivative_eq (below : Nat) :
    powerDerivative [letter] (below + 2 : Nat) = .ok
      ((toString ((below + 2 : Nat) : Int)).toList ++
        '*' :: ([letter] ++ '^' :: (toString ((below + 1 : Nat) : Int)).toList)) := by
  have lowered : exponentBelow (below + 2 : Nat) = .ok ((below + 1 : Nat) : Int) := by
    have different : ((below + 2 : Nat) : Int) ≠ leastExponent := by
      unfold leastExponent
      omega
    have lower : ((below + 2 : Nat) : Int) - 1 = (below + 1 : Nat) := by omega
    rw [exponentBelow, if_neg different, lower]
  rw [powerDerivative, if_neg (by omega), if_neg (by omega), lowered]
  simp [bind, Except.bind, pure, Except.pure]

variable (R) in
/-- The derivative of a power of the letter is found and right. -/
theorem powerDerivative_sound (isLetter : Lexer.isLetter letter) {count : Nat}
    (small : count ≤ 2 ^ 53) :
    ∃ result, powerDerivative [letter] count = .ok result
      ∧ Multiplies letter result (derivative (X ^ count : R[X])) := by
  match count with
  | 0 =>
    have zero : Multiplies letter ['0'] ((0 : Nat) : R[X]) := multiplies_toString 0 small
    exact ⟨_, rfl, by simpa using zero⟩
  | 1 =>
    have one : Multiplies letter ['1'] ((1 : Nat) : R[X]) := multiplies_toString 1 small
    exact ⟨_, rfl, by simpa using one⟩
  | below + 2 =>
    have power := (@writes_letter R _ letter isLetter).power
      (@writesCount_toString (below + 1) (by omega)).word
    refine ⟨_, powerDerivative_eq below, ?_⟩
    rw [derivative_X_pow, map_natCast]
    exact (multiplies_toString _ small).times power

variable (R) in
/-- The derivative of a power of the letter, a constant or the letter itself is found and right. -/
theorem simpleDerivative_sound (isLetter : Lexer.isLetter letter) (excerpt : Excerpt letter chars)
    (balanced : Balanced chars) :
    ∃ found, simpleDerivative [letter] chars = .ok found ∧ ∀ result ∈ found, ∃ value : R[X],
      Writes letter EndsWord .factor chars value ∧ Multiplies letter result (derivative value) := by
  unfold simpleDerivative
  split
  · rename_i exponent isPower
    obtain ⟨power, rfl, rfl⟩ := exists_power isLetter excerpt balanced isPower
    have small : power.exponent.value ≤ 2 ^ 53 := power.exponent.small.le
    obtain ⟨result, found, multiplies⟩ := powerDerivative_sound R isLetter small
    refine ⟨some result, by rw [found]; rfl, ?_⟩
    rintro _ ⟨⟩
    exact ⟨_, power.writes isLetter, multiplies⟩
  · split
    · rename_i number
      obtain ⟨constant, rfl⟩ := exists_constant isLetter excerpt number
      have zero : Multiplies letter ['0'] ((0 : Nat) : R[X]) := multiplies_toString 0 (by decide)
      refine ⟨_, rfl, ?_⟩
      rintro _ ⟨⟩
      exact ⟨_, constant.writes.word, by simpa using zero⟩
    · split
      · rename_i isName
        have one : Multiplies letter ['1'] ((1 : Nat) : R[X]) := multiplies_toString 1 (by decide)
        refine ⟨_, rfl, ?_⟩
        rintro _ ⟨⟩
        rw [isName]
        exact ⟨X, (writes_letter isLetter).factor, by simpa using one⟩
      · exact ⟨none, rfl, by simp⟩

variable (R) in
/-- The derivative of a product of the letter with a constant or with itself is right. -/
theorem productDerivative?_sound (isLetter : Lexer.isLetter letter) {left right : List Char}
    (leftExcerpt : Excerpt letter left) (rightExcerpt : Excerpt letter right) {result : List Char}
    (found : productDerivative? [letter] left right = some result) :
    ∃ value : R[X], Writes letter EndsWord (.chain .factor) (left ++ '*' :: right) value
      ∧ Writes letter EndsWord (.chain .factor) result (derivative value) := by
  have name : Writes letter EndsWord .factor [letter] (X : R[X]) := (writes_letter isLetter).factor
  have number (constant : Constant) :
      Writes letter EndsWord .factor constant.written (constant.value : R[X]) :=
    constant.writes.word
  unfold productDerivative? at found
  split at found
  · rename_i shape
    obtain ⟨rfl, isNumber⟩ := shape
    obtain ⟨constant, rfl⟩ := exists_constant isLetter rightExcerpt isNumber
    obtain rfl := Option.some.inj found
    exact ⟨_, name.product.times (number constant), by simpa using (number constant).product⟩
  · split at found
    · rename_i shape
      obtain ⟨rfl, isNumber⟩ := shape
      obtain ⟨constant, rfl⟩ := exists_constant isLetter leftExcerpt isNumber
      obtain rfl := Option.some.inj found
      exact ⟨_, (number constant).product.times name, by simpa using (number constant).product⟩
    · split at found
      · rename_i shape
        obtain ⟨rfl, rfl⟩ := shape
        obtain rfl := Option.some.inj found
        have two : Multiplies letter ['2'] ((2 : Nat) : R[X]) := multiplies_toString 2 (by decide)
        have twice := two.alone.times name
        refine ⟨_, name.product.times name, ?_⟩
        rw [derivative_mul, derivative_X, one_mul, mul_one, ← two_mul]
        simpa using twice
      · contradiction

variable (R) in
/-- The derivative of a text that is such a product is right. -/
theorem twoFactors?_sound (isLetter : Lexer.isLetter letter) (excerpt : Excerpt letter chars)
    {left right result : List Char} (factors : twoFactors? chars = some (left, right))
    (found : productDerivative? [letter] left right = some result) :
    ∃ value : R[X], Writes letter EndsWord (.chain .factor) chars value
      ∧ Writes letter EndsWord (.chain .factor) result (derivative value) := by
  obtain ⟨rfl, leftExcerpt, rightExcerpt⟩ := excerpt.factors factors
  exact productDerivative?_sound R isLetter leftExcerpt rightExcerpt found

/-! ## Parts of an expression -/

variable {expr : Expr}

/-- The derivative of a text without blanks that is not taken is right. -/
theorem writes_derivativeOf_plain (algebraic : Algebraic letter expr)
    (isLetter : Lexer.isLetter letter) (denotes : expr.Denotes (String.singleton letter) value) :
    Writes letter EndsWord .primary (derivativeOf [letter] (plain expr)) (derivative value) := by
  refine writes_derivativeOf isLetter ?_ ((algebraic.derives isLetter).loosen (Nat.zero_le _))
    denotes
  intro after found scans
  exact algebraic.spells isLetter _ _ (endsWord_cons (by decide) (by decide) (by decide) after)
    (by simp) scans.closing

/-- The derivative of an expression that is not taken is right. -/
theorem writes_derivativeOf_text (algebraic : Algebraic letter expr)
    (isLetter : Lexer.isLetter letter) (denotes : expr.Denotes (String.singleton letter) value) :
    Writes letter EndsWord .primary (derivativeOf [letter] expr.text.toList)
      (derivative value) := by
  refine writes_derivativeOf isLetter ?_ ((algebraic.derives isLetter).loosen (Nat.zero_le _))
    denotes
  intro after found scans
  exact (algebraic.readable isLetter).scans algebraic.isPolynomial.finite
    (Expr.breaks_closing after) (by simp) scans.closing

/-- What the text of an expression writes is what the expression denotes. -/
theorem denotes_of_writes (algebraic : Algebraic letter expr)
    (isLetter : Lexer.isLetter letter)
    (writes : Writes letter EndsWord .expression (plain expr) value) :
    expr.Denotes (String.singleton letter) value :=
  writes.denotes endsWord_nil (algebraic.reads isLetter)

variable (R) in
/-- The derivative of a factor is found and right. -/
theorem factorDerivative_sound (algebraic : Algebraic letter expr)
    (isLetter : Lexer.isLetter letter) :
    ∃ result, factorDerivative [letter] (plain expr) = .ok result ∧ ∃ value : R[X],
      expr.Denotes (String.singleton letter) value
        ∧ Multiplies letter result (derivative value) := by
  obtain ⟨found, simple, sound⟩ := simpleDerivative_sound R isLetter
    (algebraic.excerpt isLetter) (algebraic.balanced isLetter)
  refine ⟨found.getD (derivativeOf [letter] (plain expr)), ?_, ?_⟩
  · rw [factorDerivative, simple]
    rfl
  cases found with
  | some result =>
    obtain ⟨value, writes, multiplies⟩ := sound result rfl
    exact ⟨value, denotes_of_writes algebraic isLetter writes.product.expression, multiplies⟩
  | none =>
    obtain ⟨value, denotes⟩ := algebraic.exists_denotes R
    exact ⟨value, denotes, (writes_derivativeOf_plain algebraic isLetter denotes).factor.multiplies⟩

variable (R) in
/-- The derivative of a summand is found and right. -/
theorem addendDerivative_sound (algebraic : Algebraic letter expr)
    (isLetter : Lexer.isLetter letter) :
    ∃ result, addendDerivative [letter] (plain expr) = .ok result ∧ ∃ value : R[X],
      expr.Denotes (String.singleton letter) value
        ∧ Writes letter EndsWord (.chain .factor) result (derivative value) := by
  obtain ⟨found, simple, sound⟩ := simpleDerivative_sound R isLetter
    (algebraic.excerpt isLetter) (algebraic.balanced isLetter)
  simp only [addendDerivative, simple, bind, Except.bind]
  cases found with
  | some result =>
    obtain ⟨value, writes, multiplies⟩ := sound result rfl
    exact ⟨result, rfl, value, denotes_of_writes algebraic isLetter writes.product.expression,
      multiplies.alone⟩
  | none =>
    obtain ⟨value, denotes⟩ := algebraic.exists_denotes R
    have untaken := (writes_derivativeOf_plain algebraic isLetter denotes).factor.product
    cases factors : twoFactors? (plain expr) with
    | none => exact ⟨_, rfl, value, denotes, untaken⟩
    | some both =>
      obtain ⟨left, right⟩ := both
      cases rule : productDerivative? [letter] left right with
      | none => exact ⟨_, by simp only [Option.bind_some, rule]; rfl, value, denotes, untaken⟩
      | some result =>
        obtain ⟨value, writes, sound⟩ := twoFactors?_sound R isLetter
          (algebraic.excerpt isLetter) factors rule
        exact ⟨result, by simp only [Option.bind_some, rule]; rfl, value,
          denotes_of_writes algebraic isLetter writes.expression, sound⟩

/-! ## Whole expressions -/

/-- The text of an expression without blanks is split where the tree is: no sum is split at the sign
of an operand, and nothing is split into two factors but a product. -/
structure SplitsTruly (expr : Expr) : Prop where
  sum : (addends? (plain expr)).isSome → ¬ expr.HasPlusSign
  product : addends? (plain expr) = none → (twoFactors? (plain expr)).isSome →
    ∃ left right span, expr = .binary .times left right span

variable (R) in
/-- The derivative of a sum is found part by part and right. -/
theorem sum_sound (algebraic : Algebraic letter expr) (isLetter : Lexer.isLetter letter)
    (noSign : ¬ expr.HasPlusSign) {parts : List (List Char)}
    (found : addends? (plain expr) = some parts) :
    ∃ results, parts.mapM (addendDerivative [letter]) = .ok results ∧ ∃ value : R[X],
      expr.Denotes (String.singleton letter) value
        ∧ Writes letter EndsWord .expression (" + ".toList.intercalate results)
          (derivative value) := by
  have splits : (expr.summands.1 ++ [expr.summands.2]).map plain = parts :=
    (algebraic.splitTop_plain isLetter noSign).symm.trans (of_addends? found)
  obtain ⟨results, answers, related⟩ := exists_mapM fun summand member =>
    addendDerivative_sound R (algebraic.summands summand member) isLetter
  obtain ⟨values, denote, write⟩ := exists_between related
  obtain ⟨front, last, rfl, frontDenotes, lastDenotes⟩ := of_forall₂_append denote
  refine ⟨results, ?_, _, Expr.denotes_of_summands frontDenotes lastDenotes, ?_⟩
  · rw [← splits, List.mapM_map]
    exact answers
  · have nonempty : results ≠ [] := by
      rintro rfl
      simp at write
    have whole := Writes.intercalate Writes.spaced nonempty (List.forall₂_map_right_iff.2 write)
    rw [← List.sum_singleton (x := last), ← List.sum_append, map_list_sum]
    exact whole

variable (R) in
/-- The derivative of a product is found by the product rule and right. -/
theorem product_sound {left right : Expr} {span : Span}
    (algebraic : Algebraic letter (.binary .times left right span))
    (isLetter : Lexer.isLetter letter) {first second : List Char}
    (found : twoFactors? (plain (.binary .times left right span)) = some (first, second)) :
    ∃ firstDerivative secondDerivative,
      factorDerivative [letter] first = .ok firstDerivative
        ∧ factorDerivative [letter] second = .ok secondDerivative ∧ ∃ value : R[X],
          Denotes (String.singleton letter) (.binary .times left right span) value
            ∧ Writes letter EndsWord .expression
              (first ++ '*' :: secondDerivative ++ " + ".toList ++ second ++ '*' :: firstDerivative)
              (derivative value) := by
  obtain ⟨splits, -⟩ := of_twoFactors? found
  cases algebraic with
  | joined _ _ _ tight tighter leftInside rightInside =>
    rw [Expr.plain_binary] at splits
    obtain ⟨rfl, rfl⟩ :=
      eq_of_splitTop_operator (by decide) (leftInside.balanced isLetter) splits
    obtain ⟨firstDerivative, firstFound, value, leftDenotes, firstMultiplies⟩ :=
      factorDerivative_sound R leftInside isLetter
    obtain ⟨secondDerivative, secondFound, other, rightDenotes, secondMultiplies⟩ :=
      factorDerivative_sound R rightInside isLetter
    refine ⟨_, _, firstFound, secondFound, value * other, .product leftDenotes rightDenotes, ?_⟩
    have leftWrites := leftInside.writes isLetter leftDenotes tight
    have rightWrites := rightInside.writes isLetter rightDenotes (Nat.le_of_lt tighter)
    have whole := (secondMultiplies.behind leftWrites).expression.spaced
      (firstMultiplies.behind rightWrites)
    rw [derivative_mul, add_comm, mul_comm (derivative value)]
    simpa using whole

/-- The table of functions has no derivative of a polynomial. -/
theorem lookup_derivativeTable (marks : ∀ char ∈ chars, IsMark letter char) :
    (derivativeTable [letter]).lookup chars = none := by
  refine lookup_eq_none marks ?_
  simp only [derivativeTable, List.forall_mem_cons]
  refine ⟨exists_not_isMark 's' 'i' ?_, exists_not_isMark 'c' 'o' ?_, exists_not_isMark 't' 'a' ?_,
    exists_not_isMark 'e' 'x' ?_, exists_not_isMark 'l' 'n' ?_, exists_not_isMark 's' 'q' ?_,
    exists_not_isMark 'l' 'o' ?_, by simp⟩
  all_goals simp [Lexer.isLetter]

/-- The derivative of a polynomial is found. It is right if the text is split where the tree is. -/
theorem differentiateChars_sound (algebraic : Algebraic letter expr)
    (isLetter : Lexer.isLetter letter) (splitsTruly : SplitsTruly expr) :
    ∃ result, differentiateChars [letter] expr.text.toList = .ok result ∧ ∃ value : ℤ[X],
      expr.Denotes (String.singleton letter) value
        ∧ Writes letter EndsWord .expression result (derivative value) := by
  have excerpt := algebraic.excerpt isLetter
  obtain ⟨found, simple, sound⟩ := simpleDerivative_sound ℤ isLetter excerpt
    (algebraic.balanced isLetter)
  have same : Text.compact expr.text.toList = plain expr := rfl
  simp only [differentiateChars, same, simple, bind, Except.bind]
  cases found with
  | some result =>
    obtain ⟨value, writes, multiplies⟩ := sound result rfl
    exact ⟨result, rfl, value, denotes_of_writes algebraic isLetter writes.product.expression,
      multiplies.alone.expression⟩
  | none =>
    cases sum : addends? (plain expr) with
    | some parts =>
      obtain ⟨results, answers, value, denotes, writes⟩ :=
        sum_sound ℤ algebraic isLetter (splitsTruly.sum (by rw [sum]; rfl)) sum
      exact ⟨_, by simp only [answers]; rfl, value, denotes, writes⟩
    | none =>
      cases factors : twoFactors? (plain expr) with
      | some both =>
        obtain ⟨first, second⟩ := both
        dsimp only
        cases rule : productDerivative? [letter] first second with
        | some result =>
          obtain ⟨value, writes, sound⟩ := twoFactors?_sound ℤ isLetter excerpt factors rule
          exact ⟨result, rfl, value, denotes_of_writes algebraic isLetter writes.expression,
            sound.expression⟩
        | none =>
          obtain ⟨left, right, span, rfl⟩ := splitsTruly.product sum (by rw [factors]; rfl)
          obtain ⟨firstDerivative, secondDerivative, firstFound, secondFound, value, denotes,
            writes⟩ := product_sound ℤ algebraic isLetter factors
          exact ⟨_, by simp only [firstFound, secondFound]; rfl, value, denotes, writes⟩
      | none =>
        obtain ⟨value, denotes⟩ := algebraic.exists_denotes ℤ
        refine ⟨_, rfl, value, denotes, ?_⟩
        rw [lookup_derivativeTable excerpt.marks]
        exact (writes_derivativeOf_text algebraic isLetter denotes).factor.product.expression

/-- The derivative of the text of a polynomial is found. If the text is split where the tree is, the
answer is read as an expression that denotes the formal derivative, with the derivatives in it that
are not taken. -/
theorem differentiate_sound {source : List Char} (isLetter : Lexer.isLetter letter)
    (reads : Reads source expr) (polynomial : expr.IsPolynomial (String.singleton letter))
    (splitsTruly : SplitsTruly expr) :
    ∃ answer tree, differentiate (String.singleton letter) expr.text = .ok answer
      ∧ Reads answer.toList tree ∧ ∃ value : ℤ[X],
        expr.Denotes (String.singleton letter) value
          ∧ tree.Denotes (String.singleton letter) (derivative value) := by
  obtain ⟨result, found, value, denotes, writes⟩ :=
    differentiateChars_sound (reads.algebraic polynomial) isLetter splitsTruly
  obtain ⟨tree, treeReads, treeDenotes⟩ := writes.reads endsWord_nil
  refine ⟨String.ofList result, tree, ?_, by rwa [String.toList_ofList], value, denotes,
    treeDenotes⟩
  rw [differentiate, String.toList_singleton, found]
  rfl

/-- The product rule, with a difference in parentheses and a power behind the product sign. -/
theorem differentiate_sound_product :
    ∃ expr, Reads "(x - 1) * x ^ 2".toList expr ∧ expr.IsPolynomial "x" ∧ SplitsTruly expr
      ∧ ∃ answer tree, differentiate "x" expr.text = .ok answer ∧ Reads answer.toList tree
        ∧ ∃ value : ℤ[X], expr.Denotes "x" value ∧ tree.Denotes "x" (derivative value) := by
  have accepts : Expr.readRegion 0 "(x - 1) * x ^ 2".toList 1 = .ok
      (.binary .times
        (.paren (.binary .minus (.symbol "x" ⟨1, 2⟩) (.number 1 ⟨5, 6⟩) ⟨1, 6⟩) ⟨0, 7⟩)
        (.binary .power (.symbol "x" ⟨10, 11⟩) (.number 2 ⟨14, 15⟩) ⟨10, 15⟩) ⟨0, 15⟩) := by
    rfl
  obtain ⟨found, scans, derives, -⟩ := Expr.derives_of_readRegion accepts
  have reads : Reads "(x - 1) * x ^ 2".toList _ := ⟨found, scans, derives⟩
  have name : "x" = String.singleton 'x' := by rfl
  rw [name]
  refine ⟨_, reads, ?polynomial, ?splitsTruly,
    differentiate_sound (show Lexer.isLetter 'x' by decide) reads ?polynomial ?splitsTruly⟩
  case polynomial =>
    exact ⟨⟨rfl, 1, by decide, Number.exactly_one⟩, rfl, 2, by decide, Number.exactly_two⟩
  case splitsTruly =>
    exact ⟨fun _ => by simp [Expr.bare, Expr.HasPlusSign], fun _ _ => ⟨_, _, _, rfl⟩⟩

/-- A difference is split at the only product sign of its first operand, and the answer denotes
another polynomial than the formal derivative. -/
theorem differentiate_splits_difference :
    ∃ expr, Reads "x * x - 1".toList expr ∧ expr.IsPolynomial "x" ∧ expr.text = "x * x - 1"
      ∧ differentiate "x" expr.text = .ok "x*d/dx(x-1) + x-1*1"
      ∧ ¬ ∃ answer tree, differentiate "x" expr.text = .ok answer ∧ Reads answer.toList tree
        ∧ ∃ value : ℤ[X], expr.Denotes "x" value ∧ tree.Denotes "x" (derivative value) := by
  have accepts : Expr.readRegion 0 "x * x - 1".toList 1 = .ok
      (.binary .minus (.binary .times (.symbol "x" ⟨0, 1⟩) (.symbol "x" ⟨4, 5⟩) ⟨0, 5⟩)
        (.number 1 ⟨8, 9⟩) ⟨0, 9⟩) := by
    rfl
  have acceptsAnswer : Expr.readRegion 0 "x*d/dx(x-1) + x-1*1".toList 1 = .ok
      (.binary .minus
        (.binary .plus
          (.binary .times (.symbol "x" ⟨0, 1⟩)
            (.derivative "x" (.binary .minus (.symbol "x" ⟨7, 8⟩) (.number 1 ⟨9, 10⟩) ⟨7, 10⟩)
              ⟨2, 11⟩) ⟨0, 11⟩)
          (.symbol "x" ⟨14, 15⟩) ⟨0, 15⟩)
        (.binary .times (.number 1 ⟨16, 17⟩) (.number 1 ⟨18, 19⟩) ⟨16, 19⟩) ⟨0, 19⟩) := by
    rfl
  obtain ⟨found, scans, derives, -⟩ := Expr.derives_of_readRegion accepts
  obtain ⟨found', scans', derives', -⟩ := Expr.derives_of_readRegion acceptsAnswer
  refine ⟨_, ⟨found, scans, derives⟩, ⟨⟨rfl, rfl⟩, 1, by decide, Number.exactly_one⟩, by rfl,
    by rfl, ?_⟩
  rintro ⟨answer, tree, answers, reads, value, denotes, treeDenotes⟩
  obtain rfl : "x*d/dx(x-1) + x-1*1" = answer := Except.ok.inj answers
  obtain rfl := reads.unique ⟨found', scans', derives'⟩
  have one {span : Span} : Denotes "x" (.number 1 span) ((1 : Nat) : ℤ[X]) :=
    .number Number.exactly_one
  have value_eq := denotes.unique (.difference (.product .name .name) one)
  have answer_eq := treeDenotes.unique
    (.difference (.sum (.product .name (.derivative (.difference .name one))) .name)
      (.product one one))
  have atZero := congrArg (eval 0) answer_eq
  rw [value_eq] at atZero
  simp at atZero

end Workings.Calculus
