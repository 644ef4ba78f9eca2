import Workings.Calculus.Differentiation
import Workings.Calculus.Integration
import Workings.Guarded

/-!
# The rules of calculus by guarded positions

The parts of a text are cut out of it between the positions of its operators. Parentheses are
counted on the way, and no operator is looked for where one stands. A rule that splits a text breaks
off where the splitting does, and where an exponent leaves its range.
-/

namespace Workings.Calculus

/-! ## Splitting -/

/-- The parts of a text from the one that begins at `start` on. The rest of the text stands at
`position`, with so many parentheses open in front of it. -/
def guardedSplitFrom (op : Char) (text : List Char) (start position : Nat) (depth : Int) :
    List Char → Guarded (List (List Char))
  | [] => return [← Guarded.cutFrom text start]
  | char :: rest => do
    let behind := position + char.utf8Size
    if char = '(' then
      guardedSplitFrom op text start behind (← Guarded.countUp depth) rest
    else if char = ')' then
      guardedSplitFrom op text start behind (← Guarded.countDown depth) rest
    else if char = op ∧ depth = 0 then
      let part ← Guarded.cut text ⟨start, position⟩
      let next ← Guarded.add position char.utf8Size
      let others ← guardedSplitFrom op text next behind depth rest
      return part :: others
    else guardedSplitFrom op text start behind depth rest

/-- The parts of a text between the operators that stand outside parentheses. -/
def guardedSplit (op : Char) (text : List Char) : Guarded (List (List Char)) :=
  guardedSplitFrom op text 0 0 0 text

/-- The two factors of a text that is a product of exactly two. -/
def guardedFactors? (chars : List Char) : Guarded (Option (List Char × List Char)) := do
  match ← guardedSplit '*' chars with
  | [left, right] => return if left.isEmpty || right.isEmpty then none else some (left, right)
  | _ => return none

/-- The addends of a text that is a sum of at least two. -/
def guardedAddends? (chars : List Char) : Guarded (Option (List (List Char))) := do
  let parts ← guardedSplit '+' chars
  return if parts.length < 2 || parts.any List.isEmpty then none else some parts

/-! ## Rules -/

/-- The rule for one part of a sum, from what is found if it is simple, the rule for products, and
what is kept of it if neither applies. -/
def guardedAddend (simple : List Char → Except Overflow (Option (List Char)))
    (product? : List Char → List Char → Option (List Char)) (kept : List Char → List Char)
    (part : List Char) : Guarded (List Char) := do
  match ← Guarded.ofOverflow (simple part) with
  | some result => return result
  | none =>
    let product := (← guardedFactors? part).bind fun (left, right) => product? left right
    return product.getD (kept part)

/-- The derivative of an expression by the given name. -/
def guardedDifferentiateChars (wrt expr : List Char) : Guarded (List Char) := do
  let chars := Text.compact expr
  match ← Guarded.ofOverflow (simpleDerivative wrt chars) with
  | some result => return result
  | none =>
    match ← guardedAddends? chars with
    | some parts =>
      let derivative := guardedAddend (simpleDerivative wrt) (productDerivative? wrt)
        (derivativeOf wrt)
      return " + ".toList.intercalate (← parts.mapM derivative)
    | none =>
      match ← guardedFactors? chars with
      | some (left, right) =>
        match productDerivative? wrt left right with
        | some result => return result
        | none =>
          let leftDerivative ← Guarded.ofOverflow (factorDerivative wrt left)
          let rightDerivative ← Guarded.ofOverflow (factorDerivative wrt right)
          return left ++ '*' :: rightDerivative ++ " + ".toList ++ right ++ '*' :: leftDerivative
      | none => return ((derivativeTable wrt).lookup chars).getD (derivativeOf wrt expr)

/-- The derivative of an expression by the given name. -/
def guardedDifferentiate (wrt expr : String) : Guarded String :=
  String.ofList <$> guardedDifferentiateChars wrt.toList expr.toList

/-- The integral of an expression by the given name. -/
def guardedIntegrateChars (wrt expr : List Char) : Guarded (List Char) := do
  let chars := Text.compact expr
  match ← Guarded.ofOverflow (simpleIntegral wrt chars) with
  | some result => return withConstant result
  | none =>
    match ← guardedAddends? chars with
    | some parts =>
      let integral := guardedAddend (simpleIntegral wrt) (productIntegral? wrt) (integralOf wrt)
      return withConstant (" + ".toList.intercalate (← parts.mapM integral))
    | none =>
      let result := match ← guardedFactors? chars with
        | some (left, right) => productIntegral? wrt left right
        | none => (integralTable wrt).lookup chars
      return (result.map withConstant).getD (integralOf wrt expr)

/-- The integral of an expression by the given name. -/
def guardedIntegrate (wrt expr : String) : Guarded String :=
  String.ofList <$> guardedIntegrateChars wrt.toList expr.toList

end Workings.Calculus
