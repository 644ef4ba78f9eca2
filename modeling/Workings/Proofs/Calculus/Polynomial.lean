import Mathlib.Algebra.Polynomial.Derivative
import Workings.Proofs.Expr.RoundTrip
import Workings.Proofs.Number.Whole

/-!
# Expressions that are polynomials

An expression denotes a polynomial in a name over a ring if it is built from the name and whole
numbers by sums, differences, products, powers by whole numbers, quotients by whole numbers that
divide it, and derivatives that are to be taken. It denotes one polynomial at most. The expressions
that calculus is sound for are built without quotients and derivatives, from whole numbers that
doubles tell apart.
-/

namespace Workings.Expr

open Polynomial

/-- A whole number, in parentheses or without. -/
def Counts : Expr → Nat → Prop
  | .number value _, count => Number.Exactly value count
  | .paren inner _, count => inner.Counts count
  | _, _ => False

/-- The polynomial in a name that an expression denotes. -/
inductive Denotes {R : Type} [CommRing R] (wrt : String) : Expr → R[X] → Prop where
  | number {value : Float} {span : Span} {count : Nat} (exactly : Number.Exactly value count) :
      Denotes wrt (.number value span) count
  | name {span : Span} : Denotes wrt (.symbol wrt span) X
  | paren {inner : Expr} {span : Span} {value : R[X]} (inside : Denotes wrt inner value) :
      Denotes wrt (.paren inner span) value
  | positive {operand : Expr} {span : Span} {value : R[X]} (signed : Denotes wrt operand value) :
      Denotes wrt (.unary .plus operand span) value
  | negative {operand : Expr} {span : Span} {value : R[X]} (signed : Denotes wrt operand value) :
      Denotes wrt (.unary .minus operand span) (-value)
  | sum {left right : Expr} {span : Span} {first second : R[X]}
      (leftDenotes : Denotes wrt left first) (rightDenotes : Denotes wrt right second) :
      Denotes wrt (.binary .plus left right span) (first + second)
  | difference {left right : Expr} {span : Span} {first second : R[X]}
      (leftDenotes : Denotes wrt left first) (rightDenotes : Denotes wrt right second) :
      Denotes wrt (.binary .minus left right span) (first - second)
  | product {left right : Expr} {span : Span} {first second : R[X]}
      (leftDenotes : Denotes wrt left first) (rightDenotes : Denotes wrt right second) :
      Denotes wrt (.binary .times left right span) (first * second)
  | power {base exponent : Expr} {span : Span} {value : R[X]} {count : Nat}
      (baseDenotes : Denotes wrt base value) (counts : exponent.Counts count) :
      Denotes wrt (.binary .power base exponent span) (value ^ count)
  | quotient {dividend divisor : Expr} {span : Span} {value : R[X]} {count : Nat}
      (counts : divisor.Counts count) (nonzero : count ≠ 0)
      (denotes : Denotes wrt dividend ((count : R[X]) * value)) :
      Denotes wrt (.binary .dividedBy dividend divisor span) value
  | derivative {body : Expr} {span : Span} {value : R[X]} (bodyDenotes : Denotes wrt body value) :
      Denotes wrt (.derivative wrt body span) (Polynomial.derivative value)

/-- An expression built from the name and whole numbers below the fifty-third power of two by sums,
differences, products, powers by such numbers, signs and parentheses. -/
def IsPolynomial (wrt : String) : Expr → Prop
  | .number value _ => ∃ count < 2 ^ 53, Number.Exactly value count
  | .symbol name _ => name = wrt
  | .paren inner _ => inner.IsPolynomial wrt
  | .unary _ operand _ => operand.IsPolynomial wrt
  | .binary .power base exponent _ =>
    base.IsPolynomial wrt ∧ ∃ count < 2 ^ 53, exponent.Counts count
  | .binary .plus left right _ | .binary .minus left right _ | .binary .times left right _ =>
    left.IsPolynomial wrt ∧ right.IsPolynomial wrt
  | _ => False

variable {wrt : String} {expr : Expr}

/-- An expression is one whole number at most. -/
theorem Counts.unique {count other : Nat} (counts : expr.Counts count)
    (counts' : expr.Counts other) : count = other := by
  induction expr with
  | number => exact Number.Exactly.unique counts counts'
  | paren _ _ hypothesis => exact hypothesis counts counts'
  | _ => contradiction

/-- An expression denotes one polynomial at most. -/
theorem Denotes.unique {R : Type} [CommRing R] [IsDomain R] [CharZero R] {value other : R[X]}
    (denotes : expr.Denotes wrt value) (denotes' : expr.Denotes wrt other) : value = other := by
  induction denotes generalizing other with
  | number exactly =>
    cases denotes' with
    | number exactly' => rw [exactly.unique exactly']
  | name =>
    cases denotes' with
    | name => rfl
  | paren _ hypothesis =>
    cases denotes' with
    | paren inside' => exact hypothesis inside'
  | positive _ hypothesis =>
    cases denotes' with
    | positive signed' => exact hypothesis signed'
  | negative _ hypothesis =>
    cases denotes' with
    | negative signed' => rw [hypothesis signed']
  | sum _ _ leftHypothesis rightHypothesis =>
    cases denotes' with
    | sum left' right' => rw [leftHypothesis left', rightHypothesis right']
  | difference _ _ leftHypothesis rightHypothesis =>
    cases denotes' with
    | difference left' right' => rw [leftHypothesis left', rightHypothesis right']
  | product _ _ leftHypothesis rightHypothesis =>
    cases denotes' with
    | product left' right' => rw [leftHypothesis left', rightHypothesis right']
  | power _ counts hypothesis =>
    cases denotes' with
    | power base' counts' => rw [hypothesis base', counts.unique counts']
  | quotient counts nonzero _ hypothesis =>
    cases denotes' with
    | quotient counts' _ dividend' =>
      have same := hypothesis dividend'
      rw [← counts.unique counts'] at same
      exact mul_left_cancel₀ (Nat.cast_ne_zero.2 nonzero) same
  | derivative _ hypothesis =>
    cases denotes' with
    | derivative body' => rw [hypothesis body']

/-- Every polynomial expression denotes a polynomial over every ring. -/
theorem IsPolynomial.exists_denotes (R : Type) [CommRing R] (polynomial : expr.IsPolynomial wrt) :
    ∃ value : R[X], expr.Denotes wrt value := by
  induction expr with
  | number value span =>
    obtain ⟨count, -, exactly⟩ := polynomial
    exact ⟨_, .number exactly⟩
  | symbol name span =>
    obtain rfl : name = wrt := polynomial
    exact ⟨_, .name⟩
  | paren inner span hypothesis =>
    obtain ⟨value, denotes⟩ := hypothesis polynomial
    exact ⟨value, .paren denotes⟩
  | unary op operand span hypothesis =>
    obtain ⟨value, denotes⟩ := hypothesis polynomial
    cases op with
    | plus => exact ⟨value, .positive denotes⟩
    | minus => exact ⟨-value, .negative denotes⟩
  | binary op left right span leftHypothesis rightHypothesis =>
    cases op with
    | power =>
      obtain ⟨base, count, -, counts⟩ := polynomial
      obtain ⟨value, denotes⟩ := leftHypothesis base
      exact ⟨_, .power denotes counts⟩
    | plus =>
      obtain ⟨first, leftDenotes⟩ := leftHypothesis polynomial.1
      obtain ⟨second, rightDenotes⟩ := rightHypothesis polynomial.2
      exact ⟨_, .sum leftDenotes rightDenotes⟩
    | minus =>
      obtain ⟨first, leftDenotes⟩ := leftHypothesis polynomial.1
      obtain ⟨second, rightDenotes⟩ := rightHypothesis polynomial.2
      exact ⟨_, .difference leftDenotes rightDenotes⟩
    | times =>
      obtain ⟨first, leftDenotes⟩ := leftHypothesis polynomial.1
      obtain ⟨second, rightDenotes⟩ := rightHypothesis polynomial.2
      exact ⟨_, .product leftDenotes rightDenotes⟩
    | dividedBy | modulo => contradiction
  | _ => contradiction

/-- A whole number in parentheses or without is finite. -/
theorem Counts.finite {count : Nat} (counts : expr.Counts count) : expr.Finite := by
  induction expr with
  | number value span =>
    intro other member
    obtain rfl := List.mem_singleton.1 member
    exact Number.Exactly.isFinite counts
  | paren _ _ hypothesis => exact hypothesis counts
  | _ => contradiction

/-- The numbers of a polynomial expression are finite. -/
theorem IsPolynomial.finite (polynomial : expr.IsPolynomial wrt) : expr.Finite := by
  have both {left right : Expr} {op : BinaryOp} {span : Span} (leftFinite : left.Finite)
      (rightFinite : right.Finite) : (Expr.binary op left right span).Finite := by
    intro value member
    rcases List.mem_append.1 member with inLeft | inRight
    · exact leftFinite value inLeft
    · exact rightFinite value inRight
  induction expr with
  | number value span =>
    obtain ⟨count, -, exactly⟩ := polynomial
    exact @Counts.finite (.number value span) count exactly
  | symbol name span =>
    intro value member
    contradiction
  | paren inner span hypothesis => exact hypothesis polynomial
  | unary op operand span hypothesis => exact hypothesis polynomial
  | binary op left right span leftHypothesis rightHypothesis =>
    cases op with
    | power =>
      obtain ⟨base, count, -, counts⟩ := polynomial
      exact both (leftHypothesis base) counts.finite
    | plus | minus | times =>
      exact both (leftHypothesis polynomial.1) (rightHypothesis polynomial.2)
    | dividedBy | modulo => contradiction
  | _ => contradiction

end Workings.Expr
