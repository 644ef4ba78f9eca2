import Workings.Number.Binary64
import Workings.Obstacle

/-!
# Application of functions

What the built-in functions compute, and where they are not defined.
-/

namespace Workings

/-- The ratio of the circumference of a circle to its diameter. -/
def pi : Float := 3.141592653589793

/-- A right angle. -/
def halfPi : Float := 1.5707963267948966

/-- How near an argument may come to a pole of the tangent. -/
def poleDistance : Float := 1e-10

/-- Whether the argument is at an odd multiple of a right angle, as near as doubles tell. -/
def isTangentPole (argument : Float) : Bool :=
  let turns := ((argument - halfPi) / pi).round
  (argument - halfPi - turns * pi).abs < poleDistance

/-- The greatest number whose factorial is finite. -/
def maxFactorial : Float := 170

/-- The product of the whole numbers up to the given one, of which there are at most 170. -/
def factorialOf (argument : Float) : Float :=
  (List.range' 2 (argument.toUInt8.toNat - 1)).foldl
    (fun product factor => product * Float.ofNat factor) 1

namespace Function

/-- Applies a function to a number. The result need not be finite. -/
def apply (function : Function) (argument : Float) : Except Obstacle Float :=
  match function with
  | .sine => .ok argument.sin
  | .cosine => .ok argument.cos
  | .tangent =>
    if isTangentPole argument then .error (.tangentUndefined argument) else .ok argument.tan
  | .arcsine =>
    if -1 ≤ argument ∧ argument ≤ 1 then .ok argument.asin else .error (.arcsineDomain argument)
  | .arccosine =>
    if -1 ≤ argument ∧ argument ≤ 1 then .ok argument.acos
    else .error (.arccosineDomain argument)
  | .arctangent => .ok argument.atan
  | .hyperbolicSine => .ok argument.sinh
  | .hyperbolicCosine => .ok argument.cosh
  | .hyperbolicTangent => .ok argument.tanh
  | .squareRoot =>
    if argument < 0 then .error (.negativeSquareRoot argument) else .ok argument.sqrt
  | .exponential =>
    let result := argument.exp
    if result.isFinite then .ok result else .error (.exponentialOverflow argument)
  | .naturalLogarithm =>
    if argument ≤ 0 then .error (.naturalLogarithmNotPositive argument) else .ok argument.log
  | .commonLogarithm =>
    if argument ≤ 0 then .error (.commonLogarithmNotPositive argument) else .ok argument.log10
  | .absoluteValue => .ok argument.abs
  | .floor => .ok argument.floor
  | .ceiling => .ok argument.ceil
  | .round => .ok (Number.roundToEven argument)
  | .factorial =>
    if argument < 0 ∨ Number.fractionalPart argument != 0 then .error (.factorialDomain argument)
    else if maxFactorial < argument then .error (.factorialOverflow argument)
    else .ok (factorialOf argument)

end Function

end Workings
