import Workings.Function
import Workings.Number.Layout
import Workings.Operator

/-!
# What stands in the way of a number

An operation that has no number for its result meets an obstacle. Evaluation goes on with the
message of the obstacle in place of the number.
-/

namespace Workings

/-- Why an operation has no number for its result. -/
inductive Obstacle where
  | divisionByZero (left right : Float)
  | moduloByZero (left right : Float)
  /-- An exponent above a thousand. -/
  | powerTooLarge (base exponent : Float)
  /-- An exponent below minus a thousand. -/
  | powerTooSmall (base exponent : Float)
  | zeroToNegativePower (exponent : Float)
  /-- A power beyond the reach of doubles. -/
  | powerOverflow (base exponent : Float)
  /-- A power so large that its user is only warned of it. -/
  | powerExtremelyLarge (base exponent : Float)
  | arithmeticOverflow (left : Float) (op : BinaryOp) (right : Float)
  | negativeSquareRoot (argument : Float)
  | tangentUndefined (argument : Float)
  | commonLogarithmNotPositive (argument : Float)
  | naturalLogarithmNotPositive (argument : Float)
  | exponentialOverflow (argument : Float)
  | factorialDomain (argument : Float)
  | factorialOverflow (argument : Float)
  | arcsineDomain (argument : Float)
  | arccosineDomain (argument : Float)
  | functionOverflow (function : Function) (argument : Float)
  /-- More nested levels than the ceiling of the evaluation allows. -/
  | tooDeep (ceiling : Nat)
  deriving Repr

namespace Obstacle

/-- Whether the obstacle only warns of a result that is too large to be useful. -/
def isWarning : Obstacle → Bool
  | .powerExtremelyLarge _ _ => true
  | _ => false

/-- The message of an obstacle. -/
def message : Obstacle → String
  | .divisionByZero left right =>
    "Error: Division by zero (" ++ Number.text left ++ " / " ++ Number.text right ++ ")"
  | .moduloByZero left right =>
    "Error: Modulo by zero (" ++ Number.text left ++ " % " ++ Number.text right ++ ")"
  | .powerTooLarge base exponent =>
    "Error: Power too large (" ++ Number.text base ++ "^" ++ Number.text exponent ++ ")"
  | .powerTooSmall base exponent =>
    "Error: Power too small (" ++ Number.text base ++ "^" ++ Number.text exponent ++ ")"
  | .zeroToNegativePower exponent =>
    "Error: Cannot raise 0 to negative power " ++ Number.text exponent
  | .powerOverflow base exponent =>
    "Error: Power overflow (" ++ Number.text base ++ "^" ++ Number.text exponent ++ ")"
  | .powerExtremelyLarge base exponent =>
    "Warning: Power result extremely large (" ++ Number.text base ++ "^"
      ++ Number.text exponent ++ ")"
  | .arithmeticOverflow left op right =>
    "Error: Arithmetic overflow (" ++ Number.text left ++ " " ++ op.symbol ++ " "
      ++ Number.text right ++ ")"
  | .negativeSquareRoot argument =>
    "Error: Cannot take square root of negative number " ++ Number.text argument
  | .tangentUndefined argument =>
    "Error: Tangent is undefined at " ++ Number.text argument ++ " (cos("
      ++ Number.text argument ++ ") = 0)"
  | .commonLogarithmNotPositive argument =>
    "Error: Cannot take logarithm of non-positive number " ++ Number.text argument
  | .naturalLogarithmNotPositive argument =>
    "Error: Cannot take natural logarithm of non-positive number " ++ Number.text argument
  | .exponentialOverflow argument => "Error: Exponential overflow for " ++ Number.text argument
  | .factorialDomain argument =>
    "Error: Cannot take factorial of " ++ Number.text argument
      ++ " (must be non-negative integer)"
  | .factorialOverflow argument =>
    "Error: Factorial overflow for " ++ Number.text argument ++ " (max: 170)"
  | .arcsineDomain argument =>
    "Error: Arcsin domain error: " ++ Number.text argument ++ " not in [-1, 1]"
  | .arccosineDomain argument =>
    "Error: Arccos domain error: " ++ Number.text argument ++ " not in [-1, 1]"
  | .functionOverflow function argument =>
    "Error: " ++ function.name ++ " overflow for " ++ Number.text argument
  | .tooDeep ceiling => "Error: Maximum nesting depth of " ++ toString ceiling ++ " exceeded"

end Obstacle

end Workings
