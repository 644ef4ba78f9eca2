import Workings.Text.EditDistance

/-!
# Built-in functions

The functions of one argument that can be called by name. What they compute is defined with the
evaluation of expressions; here are their names.
-/

namespace Workings

/-- A function of one argument. Angles are in radians. -/
inductive Function where
  | sine
  | cosine
  | tangent
  | arcsine
  | arccosine
  | arctangent
  | hyperbolicSine
  | hyperbolicCosine
  | hyperbolicTangent
  | squareRoot
  | exponential
  | naturalLogarithm
  | commonLogarithm
  | absoluteValue
  | floor
  | ceiling
  | round
  | factorial
  deriving Repr, DecidableEq

namespace Function

/-- Every function. -/
def all : List Function :=
  [.sine, .cosine, .tangent, .arcsine, .arccosine, .arctangent, .hyperbolicSine,
   .hyperbolicCosine, .hyperbolicTangent, .squareRoot, .exponential, .naturalLogarithm,
   .commonLogarithm, .absoluteValue, .floor, .ceiling, .round, .factorial]

/-- How the function is written in expressions. -/
def name : Function → String
  | .sine => "sin"
  | .cosine => "cos"
  | .tangent => "tan"
  | .arcsine => "asin"
  | .arccosine => "acos"
  | .arctangent => "atan"
  | .hyperbolicSine => "sinh"
  | .hyperbolicCosine => "cosh"
  | .hyperbolicTangent => "tanh"
  | .squareRoot => "sqrt"
  | .exponential => "exp"
  | .naturalLogarithm => "ln"
  | .commonLogarithm => "log"
  | .absoluteValue => "abs"
  | .floor => "floor"
  | .ceiling => "ceil"
  | .round => "round"
  | .factorial => "factorial"

/-- How the function is called in explanations. -/
def description : Function → String
  | .sine => "Sine"
  | .cosine => "Cosine"
  | .tangent => "Tangent"
  | .arcsine => "Arcsin"
  | .arccosine => "Arccos"
  | .arctangent => "Arctan"
  | .hyperbolicSine => "Hyperbolic sine"
  | .hyperbolicCosine => "Hyperbolic cosine"
  | .hyperbolicTangent => "Hyperbolic tangent"
  | .squareRoot => "Square root"
  | .exponential => "Exponential"
  | .naturalLogarithm => "Natural logarithm"
  | .commonLogarithm => "Log base 10"
  | .absoluteValue => "Absolute value"
  | .floor => "Floor"
  | .ceiling => "Ceiling"
  | .round => "Round"
  | .factorial => "Factorial"

/-- The function of the given name. -/
def named? (name : String) : Option Function :=
  all.find? fun function => function.name = name

/-- No function is missing from the list. -/
theorem mem_all (function : Function) : function ∈ all := by
  cases function <;> decide

/-- A function is found by a name exactly when the name is its own. -/
theorem named?_eq_some_iff {name : String} {function : Function} :
    named? name = some function ↔ function.name = name := by
  constructor
  · intro found
    simpa using List.find?_some found
  · rintro rfl
    cases function <;> decide

/-- The nearer of two candidates; of two equally near the one whose name comes first. -/
def nearer (left right : Nat × String) : Nat × String :=
  if right.1 < left.1 ∨ (right.1 = left.1 ∧ right.2 < left.2) then right else left

/-- The function whose name is most similar to the given one, if it is near enough to be what was
meant: at most two edits away, and fewer edits away than the name has bytes. -/
def suggestion? (name : String) : Option String :=
  let distances := all.map fun function => (Text.editDistance name function.name, function.name)
  let likely := distances.filter fun candidate =>
    candidate.1 ≤ 2 ∧ candidate.1 < name.utf8ByteSize
  match likely with
  | [] => none
  | first :: rest => some (rest.foldl nearer first).2

end Function

end Workings
