import Workings.Obstacle
import Workings.Value

/-!
# Arithmetic

The operations on two numbers. A result that is no finite number is an obstacle, never a number.
-/

namespace Workings.Evaluation

/-- Exponents of a larger magnitude are refused. -/
def maxExponent : Float := 1000

/-- Powers of a larger magnitude overflow. -/
def powerLimit : Float := 1e308

/-- Powers of a larger magnitude are reported with a warning. -/
def powerWarning : Float := 1e50

/-- The result of an operation, if it is finite. -/
def finite (left : Float) (op : BinaryOp) (right result : Float) : Except Obstacle Value :=
  if result.isFinite then .ok (.number result) else .error (.arithmeticOverflow left op right)

/-- Raises a base to a power. A negative base has no real powers of broken exponent, so such a power
is kept as a text. -/
def raise (base exponent : Float) : Except Obstacle Value :=
  if base < 0 ∧ Number.fractionalPart exponent != 0 then
    .ok (.symbolic ("(" ++ Number.text base ++ ")^" ++ Number.text exponent))
  else if maxExponent < exponent then .error (.powerTooLarge base exponent)
  else if exponent < -maxExponent then .error (.powerTooSmall base exponent)
  else if base == 0 ∧ exponent < 0 then .error (.zeroToNegativePower exponent)
  else
    let result := base.pow exponent
    if ¬ result.isFinite ∨ powerLimit < result.abs then .error (.powerOverflow base exponent)
    else if powerWarning < result.abs then .error (.powerExtremelyLarge base exponent)
    else .ok (.number result)

/-- The remainder of a division. It takes the sign of the divisor. -/
def modulo (left right : Float) : Float :=
  let rest := Number.remainder left right
  if rest != 0 ∧ (decide (rest < 0)) ≠ (decide (right < 0)) then rest + right else rest

/-- Applies an operator to two numbers. -/
def operate (op : BinaryOp) (left right : Float) : Except Obstacle Value :=
  match op with
  | .plus => finite left op right (left + right)
  | .minus => finite left op right (left - right)
  | .times => finite left op right (left * right)
  | .dividedBy =>
    if right == 0 then .error (.divisionByZero left right)
    else finite left op right (left / right)
  | .modulo =>
    if right == 0 then .error (.moduloByZero left right)
    else finite left op right (modulo left right)
  | .power => raise left right

end Workings.Evaluation
