import Workings.Function
import Workings.Operator

/-!
# Steps

The trace of an evaluation has one step for every node that was visited, in the order in which the
nodes were finished.
-/

namespace Workings

/-- What was done in a step. -/
inductive Operation where
  | literal
  | substitution
  | freeName
  | parentheses
  | negation
  | keptSign
  | symbolicSign
  | arithmetic (op : BinaryOp)
  | symbolicArithmetic
  | application (function : Function)
  | symbolicApplication
  | unknownFunction
  | derivative
  | integral
  | definiteIntegral
  | recalled
  | error
  | warning
  deriving Repr, DecidableEq

/-- How an operation on two numbers is called in traces. -/
def BinaryOp.tag : BinaryOp → String
  | .plus => "addition"
  | .minus => "subtraction"
  | .times => "multiplication"
  | .dividedBy => "division"
  | .modulo => "modulo"
  | .power => "power"

/-- How an operation is called in traces. -/
def Operation.tag : Operation → String
  | .literal => "number"
  | .substitution => "variable_substitution"
  | .freeName => "variable_symbolic"
  | .parentheses => "parentheses"
  | .negation => "negation"
  | .keptSign => "positive"
  | .symbolicSign => "unary_symbolic"
  | .arithmetic op => op.tag
  | .symbolicArithmetic => "symbolic_operation"
  | .application function => function.name
  | .symbolicApplication => "symbolic_function"
  | .unknownFunction => "unknown_function"
  | .derivative => "derivative"
  | .integral => "integral"
  | .definiteIntegral => "definite_integral"
  | .recalled => "cached_result"
  | .error => "error"
  | .warning => "warning"

/-- One entry of a trace. -/
structure Step where
  /-- The place of the step in the trace, counted from one. -/
  number : Nat
  /-- What was evaluated, with its operands already evaluated. -/
  expression : String
  result : String
  operation : Operation
  isNumeric : Bool
  /-- A sentence for the reader of the trace. -/
  explanation : String
  deriving Repr, DecidableEq

/-- Whether the step records an error. -/
def Step.isError (step : Step) : Bool :=
  step.operation = .error

/-- Whether the step records a warning. -/
def Step.isWarning (step : Step) : Bool :=
  step.operation = .warning

end Workings
