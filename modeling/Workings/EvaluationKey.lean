import Workings.Number.Layout
import Workings.Ranking
import Workings.Text.Quoted

/-!
# Keys of evaluations

The key of an evaluation is made of the text of the expression and of the bindings by name, so that
it does not depend on the order in which the bindings are listed.
-/

namespace Workings

/-- A binding as it is written in a key. -/
def bindingText (pair : String × Float) : String :=
  Text.quote pair.1 ++ ": " ++ Number.literal pair.2

/-- The key of the evaluation of an expression with the given numbers for its names. -/
def evaluationKey (expression : String) (pairs : List (String × Float)) : String :=
  let ranked := Ranking.rank (fun left right => left.1 < right.1) pairs
  expression ++ "|\x7b" ++ ", ".intercalate (ranked.map bindingText) ++ "\x7d"

end Workings
