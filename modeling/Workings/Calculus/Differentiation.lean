import Workings.Calculus.Shape
import Workings.Calculus.Split
import Workings.Text.Blank

/-!
# Differentiation of texts

The derivative of an expression is found from its text. Powers, numbers and the name itself have
simple derivatives; sums are differentiated part by part, products of two factors by the product
rule, and a few functions of the bare name from a table. What fits none of these is kept as a
derivative to be taken.
-/

namespace Workings.Calculus

/-- A derivative that is not taken. -/
def derivativeOf (wrt expr : List Char) : List Char :=
  "d/d".toList ++ wrt ++ '(' :: expr ++ [')']

/-- The derivative of a power. -/
def powerDerivative (wrt : List Char) (exponent : Int) : Except Overflow (List Char) :=
  if exponent = 1 then .ok ['1']
  else if exponent = 0 then .ok ['0']
  else do
    let lower ← exponentBelow exponent
    return (toString exponent).toList ++ '*' :: wrt ++ '^' :: (toString lower).toList

/-- The derivative of a power, a number or the name itself. -/
def simpleDerivative (wrt expr : List Char) : Except Overflow (Option (List Char)) :=
  match powerOf? wrt expr with
  | some exponent => some <$> powerDerivative wrt exponent
  | none =>
    if isNumber expr then .ok (some ['0'])
    else if expr = wrt then .ok (some ['1'])
    else .ok none

/-- The derivative of a product of the name with a number or with itself. -/
def productDerivative? (wrt left right : List Char) : Option (List Char) :=
  if left = wrt ∧ isNumber right then some right
  else if right = wrt ∧ isNumber left then some left
  else if left = wrt ∧ right = wrt then some ('2' :: '*' :: wrt)
  else none

/-- The derivative of one part of a sum. -/
def addendDerivative (wrt part : List Char) : Except Overflow (List Char) := do
  match ← simpleDerivative wrt part with
  | some result => return result
  | none =>
    let product := (twoFactors? part).bind fun (left, right) => productDerivative? wrt left right
    return product.getD (derivativeOf wrt part)

/-- The derivative of a factor. -/
def factorDerivative (wrt factor : List Char) : Except Overflow (List Char) := do
  return (← simpleDerivative wrt factor).getD (derivativeOf wrt factor)

/-- The functions of the bare name whose derivatives are known. -/
def derivativeTable (wrt : List Char) : List (List Char × List Char) :=
  let rule (function before after : String) :=
    (function.toList ++ '(' :: wrt ++ [')'], before.toList ++ wrt ++ after.toList)
  [rule "sin" "cos(" ")", rule "cos" "-sin(" ")", rule "tan" "sec^2(" ")", rule "exp" "exp(" ")",
   rule "ln" "1/" "", rule "sqrt" "1/(2*sqrt(" "))", rule "log" "1/(" "*ln(10))"]

/-- The derivative of an expression by the given name. -/
def differentiateChars (wrt expr : List Char) : Except Overflow (List Char) := do
  let chars := Text.compact expr
  match ← simpleDerivative wrt chars with
  | some result => return result
  | none =>
    match addends? chars with
    | some parts => return " + ".toList.intercalate (← parts.mapM (addendDerivative wrt))
    | none =>
      match twoFactors? chars with
      | some (left, right) =>
        match productDerivative? wrt left right with
        | some result => return result
        | none =>
          let leftDerivative ← factorDerivative wrt left
          let rightDerivative ← factorDerivative wrt right
          return left ++ '*' :: rightDerivative ++ " + ".toList ++ right ++ '*' :: leftDerivative
      | none => return ((derivativeTable wrt).lookup chars).getD (derivativeOf wrt expr)

/-- The derivative of an expression by the given name. -/
def differentiate (wrt expr : String) : Except Overflow String :=
  String.ofList <$> differentiateChars wrt.toList expr.toList

end Workings.Calculus
