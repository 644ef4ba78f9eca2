import Workings.Proofs.Calculus.Parts
import Workings.Proofs.Calculus.PlainText
import Workings.Proofs.Calculus.Splitting

/-!
# Sums that are split at their plus signs

A sum is split at its plus signs into the texts of its summands, if no plus sign outside parentheses
is the sign of an operand. A summand may be a chain of differences. The sum of what the summands
denote is what the sum denotes.
-/

namespace Workings

namespace Expr

open Calculus

variable {letter : Char} {expr : Expr}

/-- A plus sign stands in front of an operand, outside parentheses. -/
def HasPlusSign : Expr → Prop
  | .unary op operand _ => op = .plus ∨ operand.HasPlusSign
  | .binary _ left right _ => left.HasPlusSign ∨ right.HasPlusSign
  | _ => False

/-- The summands of an expression, the last one apart. -/
def summands : Expr → List Expr × Expr
  | .binary .plus left right _ => (left.summands.1 ++ [left.summands.2], right)
  | .binary .minus left right span => (left.summands.1, .binary .minus left.summands.2 right span)
  | expr => ([], expr)

/-- A product is its own only summand. -/
theorem summands_eq (tight : Phrase.tightness (.chain .factor) ≤ expr.tightness) :
    expr.summands = ([], expr) := by
  cases expr with
  | binary op left right span =>
    cases op with
    | plus | minus => contradiction
    | _ => rfl
  | _ => rfl

/-- No plus sign stands in a name or in digits. -/
theorem sheltered_of_continuesName {chars : List Char}
    (continues : ∀ char ∈ chars, Lexer.continuesName char) : Sheltered (· = '+') chars := by
  refine sheltered_of_plain fun char member =>
    ⟨Lexer.not_isParen (.inr (continues char member)), ?_⟩
  rw [decide_eq_false_iff_not]
  rintro rfl
  exact absurd (continues '+' member) (by decide)

/-- No plus sign stands outside the parentheses of a product without such signs. -/
theorem Algebraic.sheltered (algebraic : Algebraic letter expr) (isLetter : Lexer.isLetter letter)
    (tight : Phrase.tightness (.chain .factor) ≤ expr.tightness) (noSign : ¬ expr.HasPlusSign) :
    Sheltered (· = '+') (plain expr) := by
  induction algebraic with
  | number exactly small =>
    obtain ⟨areDigits, -⟩ := plain_number exactly small nowhere
    refine sheltered_of_continuesName fun char member => ?_
    simp [Lexer.continuesName, Lexer.isDigit_eq, areDigits char member]
  | name =>
    rw [plain_symbol isLetter]
    exact sheltered_of_continuesName (by simp [Lexer.continuesName, Lexer.startsName, isLetter])
  | paren inside _ =>
    rw [plain_paren]
    exact .group (inside.balanced isLetter) .nil
  | @signed op operand operandTight _ hypothesis =>
    obtain ⟨noPlus, noSign⟩ := not_or.1 noSign
    have sign : Sheltered (· = '+') op.symbol.toList := by
      cases op with
      | plus => contradiction
      | minus => exact .plain (by decide) (by decide) .nil
    rw [plain_unary]
    exact sign.append (hypothesis (Nat.le_trans (by decide) operandTight) noSign)
  | @joined op _ _ noSlash noModulo _ leftTight rightTight _ _ leftHypothesis rightHypothesis =>
    obtain ⟨leftNoSign, rightNoSign⟩ := not_or.1 noSign
    have opTight : 1 ≤ op.precedence.tightness := tight
    have sign : Sheltered (· = '+') op.symbol.toList := by
      cases op with
      | plus => contradiction
      | _ => exact .plain (by decide) (by decide) .nil
    rw [plain_binary]
    exact (leftHypothesis (opTight.trans leftTight) leftNoSign).append
      (sign.append (rightHypothesis (opTight.trans rightTight.le) rightNoSign))

/-- The summands of a polynomial are polynomials. -/
theorem Algebraic.summands (algebraic : Algebraic letter expr) :
    ∀ summand ∈ expr.summands.1 ++ [expr.summands.2], Algebraic letter summand := by
  induction expr with
  | binary op left right span leftHypothesis _ =>
    cases algebraic with
    | joined noSlash noModulo exponent tight tighter leftInside rightInside =>
      have inLeft := leftHypothesis leftInside
      rw [List.forall_mem_append, List.forall_mem_singleton] at inLeft
      cases op with
      | plus =>
        simp only [Expr.summands, List.forall_mem_append, List.forall_mem_singleton]
        exact ⟨inLeft, rightInside⟩
      | minus =>
        simp only [Expr.summands, List.forall_mem_append, List.forall_mem_singleton]
        exact ⟨inLeft.1,
          .joined noSlash noModulo exponent (Nat.zero_le _) tighter inLeft.2 rightInside⟩
      | _ =>
        simp only [Expr.summands, List.nil_append, List.forall_mem_singleton]
        exact .joined noSlash noModulo exponent tight tighter leftInside rightInside
  | _ =>
    simp only [Expr.summands, List.nil_append, List.forall_mem_singleton]
    exact algebraic

/-- A polynomial without signs that are plus is split into its summands. -/
theorem Algebraic.splitTop_plain (algebraic : Algebraic letter expr)
    (isLetter : Lexer.isLetter letter) (noSign : ¬ expr.HasPlusSign) :
    splitTop '+' (plain expr) = (expr.summands.1 ++ [expr.summands.2]).map plain := by
  have plusSign : ¬ Lexer.isParen '+' := by decide
  have single {other : Expr} (algebraic : Algebraic letter other)
      (tight : Phrase.tightness (.chain .factor) ≤ other.tightness) (noSign : ¬ other.HasPlusSign) :
      splitTop '+' (plain other) = [plain other] :=
    splitTop_sheltered (algebraic.sheltered isLetter tight noSign) plusSign
  induction expr with
  | binary op left right span leftHypothesis _ =>
    by_cases tight : Phrase.tightness (.chain .factor) ≤ (binary op left right span).tightness
    · rw [summands_eq tight]
      exact single algebraic tight noSign
    cases algebraic with
    | joined noSlash noModulo exponent _ tighter leftInside rightInside =>
      obtain ⟨leftNoSign, rightNoSign⟩ := not_or.1 noSign
      have splits := leftHypothesis leftInside leftNoSign
      have leftBalanced := leftInside.balanced isLetter
      cases op with
      | plus =>
        have whole := splitTop_operator plusSign leftBalanced (plain right)
        rw [splits, single rightInside tighter rightNoSign] at whole
        simpa [plain_binary, BinaryOp.symbol, Expr.summands] using whole
      | minus =>
        have behind : Sheltered (· = '+') ('-' :: plain right) :=
          .plain (by decide) (by decide) (rightInside.sheltered isLetter tighter rightNoSign)
        rw [List.map_append] at splits
        have whole := splitTop_append_sheltered plusSign leftBalanced splits behind
        simpa [plain_binary, BinaryOp.symbol, Expr.summands] using whole
      | _ => exact absurd (Nat.le_of_ble_eq_true rfl) tight
  | _ => exact single algebraic (Nat.le_of_ble_eq_true rfl) noSign

/-- An expression denotes the sum of what its summands denote. -/
theorem denotes_of_summands {R : Type} [CommRing R] {wrt : String}
    {values : List (Polynomial R)} {value : Polynomial R}
    (front : List.Forall₂ (Denotes wrt) expr.summands.1 values)
    (last : expr.summands.2.Denotes wrt value) : expr.Denotes wrt (values.sum + value) := by
  have single {other : Expr} {values : List (Polynomial R)} {value : Polynomial R}
      (front : List.Forall₂ (Denotes wrt) [] values) (last : other.Denotes wrt value) :
      other.Denotes wrt (values.sum + value) := by
    obtain rfl := List.forall₂_nil_left_iff.1 front
    simpa using last
  induction expr generalizing values value with
  | binary op left right span leftHypothesis _ =>
    cases op with
    | plus =>
      obtain ⟨values', value', rfl, leftFront, leftLast⟩ := of_forall₂_append front
      rw [List.sum_append, List.sum_singleton]
      exact .sum (leftHypothesis leftFront leftLast) last
    | minus =>
      cases last with
      | difference leftLast rightDenotes =>
        rw [← add_sub_assoc]
        exact .difference (leftHypothesis front leftLast) rightDenotes
    | _ => exact single front last
  | _ => exact single front last

end Expr

end Workings
