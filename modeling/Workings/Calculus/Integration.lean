import Workings.Calculus.Shape
import Workings.Calculus.Split
import Workings.Text.Blank

/-!
# Integration of texts

The integral of an expression is found from its text, by rules that answer those of differentiation.
A rule that applies adds the constant `C`; what fits none is kept as an integral to be taken.
-/

namespace Workings.Calculus

/-- An integral that is not taken. -/
def integralOf (wrt expr : List Char) : List Char :=
  '∫' :: expr ++ " d".toList ++ wrt

/-- The integral of a power. -/
def powerIntegral (wrt : List Char) (exponent : Int) : Except Overflow (List Char) :=
  if exponent = -1 then .ok ("ln(".toList ++ wrt ++ [')'])
  else do
    let upper ← exponentAbove exponent
    let written := (toString upper).toList
    return wrt ++ '^' :: written ++ '/' :: written

/-- The integral of a power, a number or the name itself. -/
def simpleIntegral (wrt expr : List Char) : Except Overflow (Option (List Char)) :=
  match powerOf? wrt expr with
  | some exponent => some <$> powerIntegral wrt exponent
  | none =>
    if isNumber expr then .ok (some (expr ++ '*' :: wrt))
    else if expr = wrt then .ok (some (wrt ++ "^2/2".toList))
    else .ok none

/-- The integral of a product of the name with a number or with itself. -/
def productIntegral? (wrt left right : List Char) : Option (List Char) :=
  if left = wrt ∧ isNumber right then some (right ++ '*' :: wrt ++ "^2/2".toList)
  else if right = wrt ∧ isNumber left then some (left ++ '*' :: wrt ++ "^2/2".toList)
  else if left = wrt ∧ right = wrt then some (wrt ++ "^3/3".toList)
  else none

/-- The integral of one part of a sum. -/
def addendIntegral (wrt part : List Char) : Except Overflow (List Char) := do
  match ← simpleIntegral wrt part with
  | some result => return result
  | none =>
    let product := (twoFactors? part).bind fun (left, right) => productIntegral? wrt left right
    return product.getD (integralOf wrt part)

/-- The functions of the bare name whose integrals are known. -/
def integralTable (wrt : List Char) : List (List Char × List Char) :=
  let around (before after : String) := before.toList ++ wrt ++ after.toList
  [(around "sin(" ")", around "-cos(" ")"),
   (around "cos(" ")", around "sin(" ")"),
   (around "tan(" ")", around "-ln(cos(" "))"),
   (around "exp(" ")", around "exp(" ")"),
   (around "1/" "", around "ln(" ")"),
   (around "sqrt(" ")", around "(2/3)*" "^(3/2)"),
   (around "ln(" ")", around "" "*ln(" ++ around "" ") - " ++ wrt),
   (around "log(" ")", around "" "*log(" ++ around "" ") - " ++ around "" "/ln(10)")]

/-- A result with the constant of integration. -/
def withConstant (result : List Char) : List Char :=
  result ++ " + C".toList

/-- The integral of an expression by the given name. -/
def integrateChars (wrt expr : List Char) : Except Overflow (List Char) := do
  let chars := Text.compact expr
  match ← simpleIntegral wrt chars with
  | some result => return withConstant result
  | none =>
    match addends? chars with
    | some parts =>
      return withConstant (" + ".toList.intercalate (← parts.mapM (addendIntegral wrt)))
    | none =>
      let result := match twoFactors? chars with
        | some (left, right) => productIntegral? wrt left right
        | none => (integralTable wrt).lookup chars
      return (result.map withConstant).getD (integralOf wrt expr)

/-- The integral of an expression by the given name. -/
def integrate (wrt expr : String) : Except Overflow String :=
  String.ofList <$> integrateChars wrt.toList expr.toList

end Workings.Calculus
