/-!
# Tables in steps

A table in steps gives a value to every code point. It lists where a run of code points with one
value begins, in ascending order, so that each run ends where the next one begins.
-/

namespace Workings.Text

/-- The places where runs of code points begin, each with the value of its run. -/
abbrev StepTable (Value : Type) := List (Nat × Value)

namespace StepTable

/-- The value of a code point. Before the first run stands the given one. -/
def valueAt {Value : Type} : StepTable Value → (before : Value) → (code : Nat) → Value
  | [], before, _ => before
  | (start, value) :: rest, before, code =>
    if code < start then before else valueAt rest value code

/-- The places where a condition on the value begins or ceases to hold. -/
def changes {Value : Type} (condition : Value → Bool) :
    StepTable Value → (holds : Bool) → List Nat
  | [], _ => []
  | (start, value) :: rest, holds =>
    if condition value = holds then changes condition rest holds
    else start :: changes condition rest (!holds)

end StepTable

end Workings.Text
