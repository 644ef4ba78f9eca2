import Workings.Bindings
import Workings.Calculus.Differentiation
import Workings.Calculus.Integration
import Workings.Evaluation.Application
import Workings.Evaluation.Arithmetic
import Workings.Evaluation.Simpson
import Workings.Expr
import Workings.Step

/-!
# Evaluation

An expression is evaluated from its leaves upwards, and every node that is visited leaves a step in
the trace. Values are remembered by the canonical text of their expression: where the same text
comes again within one evaluation it is not walked a second time. What has no number becomes a text
and goes on as such, so evaluation stops early only where the rules of calculus leave the range of
their exponents.
-/

namespace Workings

/-- What does not change during an evaluation. -/
structure Scope where
  bindings : Bindings
  /-- How many levels may nest. -/
  ceiling : Nat
  /-- Whether a trace is kept. -/
  recording : Bool

/-- The scope in which the body of an integral is evaluated at one place. No trace is kept there. -/
def Scope.inside (scope : Scope) (wrt : String) (place : Float) : Scope :=
  { scope with bindings := scope.bindings.set wrt place, recording := false }

/-- What an evaluation has found out so far: the values of the canonical texts already evaluated,
and the trace. -/
structure Progress where
  memo : List (String × Value)
  trace : Array Step

/-- The state in which every evaluation begins. -/
def Progress.initial : Progress := ⟨[], #[]⟩

/-- A computation that goes on with an evaluation, and may leave the range of exponents. -/
abbrev Evaluator := StateT Progress (Except Overflow)

/-- Whether an expression opens a nested level. A chain of operators does not, however long it
is. -/
def Expr.nests : Expr → Bool
  | .number _ _ | .symbol _ _ | .binary _ _ _ _ => false
  | _ => true

/-- What is found out about an expression, and how. -/
structure Conclusion where
  /-- What was evaluated, with its operands already evaluated. -/
  expression : String
  value : Value
  operation : Operation
  /-- A sentence for the reader of the trace. -/
  explanation : String

/-- The step of a conclusion at a place in the trace. -/
@[inline] def Conclusion.step (conclusion : Conclusion) (number : Nat) : Step where
  number
  expression := conclusion.expression
  result := conclusion.value.text
  operation := conclusion.operation
  isNumeric := conclusion.value.isNumeric
  explanation := conclusion.explanation

/-- An expression that has no number because of an obstacle is worth the message of the obstacle. -/
@[inline] def Conclusion.ofObstacle (expression : String) (obstacle : Obstacle) : Conclusion where
  expression
  value := .symbolic obstacle.message
  operation := if obstacle.isWarning then .warning else .error
  explanation := obstacle.message

namespace Evaluation

/-- Adds a conclusion to the trace, if one is kept, and answers its value. -/
@[inline] def conclude (scope : Scope) (conclusion : Conclusion) : Evaluator Value := do
  modify fun progress =>
    if scope.recording then
      { progress with trace := progress.trace.push (conclusion.step (progress.trace.size + 1)) }
    else progress
  return conclusion.value

/-- Computes the value of an expression and remembers it by the canonical text. -/
def remember (key : String) (compute : Evaluator Value) : Evaluator Value := do
  let value ← compute
  modify fun progress => { progress with memo := (key, value) :: progress.memo }
  return value

/-- The conclusion about an expression whose value is remembered. -/
@[inline] def recalled (key : String) (value : Value) : Conclusion :=
  ⟨key, value, .recalled, "Cached result: " ++ value.text⟩

/-- Visits an expression: a value that is remembered is recalled, and others are computed, on the
next level down if the expression nests. A refusal to nest is not remembered. -/
def visit (scope : Scope) (levels : Nat) (expr : Expr) (compute : Nat → Evaluator Value) :
    Evaluator Value := do
  let key := expr.text
  match (← get).memo.lookup key with
  | some value => conclude scope (recalled key value)
  | none =>
    if expr.nests then
      match levels with
      | 0 => conclude scope (.ofObstacle key (.tooDeep scope.ceiling))
      | below + 1 => remember key (compute below)
    else remember key (compute levels)

/-- The conclusion about a literal. -/
@[inline] def literal (number : Float) : Conclusion :=
  let written := Number.text number
  ⟨written, .number number, .literal, "Number value: " ++ written⟩

/-- The conclusion about a name. -/
@[inline] def lookUp (bindings : Bindings) (name : String) : Conclusion :=
  match bindings.get? name with
  | some number =>
    ⟨name, .number number, .substitution,
      "Substituted " ++ name ++ " = " ++ Number.text number⟩
  | none => ⟨name, .symbolic name, .freeName, "Variable " ++ name ++ " kept symbolic"⟩

/-- The conclusion about parentheses around an expression of the given text. -/
@[inline] def enclose (inner : String) (value : Value) : Conclusion :=
  ⟨"(" ++ value.text ++ ")", value, .parentheses,
    "Evaluated expression in parentheses: " ++ inner⟩

/-- The sentence about an operation on two numbers. -/
def explainArithmetic (op : BinaryOp) (left right : Float) : String :=
  let left := Number.text left
  let right := Number.text right
  match op with
  | .plus => "Added " ++ left ++ " and " ++ right
  | .minus => "Subtracted " ++ right ++ " from " ++ left
  | .times => "Multiplied " ++ left ++ " by " ++ right
  | .dividedBy => "Divided " ++ left ++ " by " ++ right
  | .modulo => "Modulo of " ++ left ++ " by " ++ right
  | .power => "Raised " ++ left ++ " to power " ++ right

/-- Applies an operator to two values. -/
@[inline] def combine (op : BinaryOp) (left right : Value) : Conclusion :=
  let expression := left.text ++ " " ++ op.symbol ++ " " ++ right.text
  match left.number?, right.number? with
  | some leftNumber, some rightNumber =>
    match operate op leftNumber rightNumber with
    | .ok value =>
      ⟨expression, value, if value.isNumeric then .arithmetic op else .symbolicArithmetic,
        explainArithmetic op leftNumber rightNumber⟩
    | .error obstacle => .ofObstacle expression obstacle
  | _, _ =>
    ⟨expression, .symbolic ("(" ++ expression ++ ")"), .symbolicArithmetic,
      "Kept " ++ expression ++ " symbolic"⟩

/-- Puts a sign in front of a value. -/
@[inline] def applySign (op : UnaryOp) (operand : Value) : Conclusion :=
  let expression := op.symbol ++ operand.text
  match operand, op with
  | .number value, .minus =>
    ⟨expression, .number (-value), .negation, "Negated " ++ operand.text⟩
  | .number value, .plus =>
    ⟨expression, .number value, .keptSign, "Kept the sign of " ++ operand.text⟩
  | .symbolic text, _ =>
    ⟨expression, .symbolic expression, .symbolicSign,
      "Applied unary " ++ op.symbol ++ " to symbolic " ++ text⟩

/-- The sentence about a function that nobody knows. -/
def explainUnknown (name : String) : String :=
  match Function.suggestion? name with
  | some suggestion => "Unknown function " ++ name ++ " (did you mean " ++ suggestion ++ "?)"
  | none => "Unknown function " ++ name

/-- Applies the function of the given name to a value. -/
@[inline] def applyFunction (name : String) (argument : Value) : Conclusion :=
  let expression := name ++ "(" ++ argument.text ++ ")"
  match argument with
  | .symbolic text =>
    ⟨expression, .symbolic expression, .symbolicApplication,
      "Kept " ++ name ++ " of symbolic argument " ++ text⟩
  | .number value =>
    match Function.named? name with
    | none => ⟨expression, .symbolic expression, .unknownFunction, explainUnknown name⟩
    | some function =>
      match function.apply value with
      | .ok result =>
        if result.isFinite then
          ⟨expression, .number result, .application function,
            function.description ++ " of " ++ argument.text⟩
        else .ofObstacle expression (.functionOverflow function value)
      | .error obstacle => .ofObstacle expression obstacle

/-- The conclusion about a derivative, from the text that the rules made of its body. -/
@[inline] def differentiated (wrt : String) (body : Expr) (derived : String) : Conclusion :=
  ⟨"d/d" ++ wrt ++ "(" ++ body.text ++ ")", .ofText derived, .derivative,
    "Differentiated " ++ body.innermost.text ++ " with respect to " ++ wrt⟩

/-- The conclusion about an integral without bounds, from the text that the rules made of its
body. -/
@[inline] def integrated (wrt : String) (body : Expr) (antiderivative : String) : Conclusion :=
  ⟨"∫" ++ body.text ++ " d" ++ wrt, .ofText antiderivative, .integral,
    "Integrated " ++ body.innermost.text ++ " with respect to " ++ wrt⟩

/-- The number of a sample, if it is finite. -/
def finiteNumber? (value : Value) : Option Float :=
  value.number?.filter Float.isFinite

/-- The area under a curve between two values; none if one of them is no number. -/
def areaBetween {m : Type → Type} [Monad m] (sample : Float → m Value) (lower upper : Value) :
    m (Option Float) :=
  match lower.number?, upper.number? with
  | some lower, some upper =>
    (simpson (fun place => OptionT.mk (finiteNumber? <$> sample place)) lower upper).run
  | _, _ => pure none

/-- The conclusion about an integral between two bounds. -/
@[inline] def integratedBetween (wrt inner : String) (lower upper : Value)
    (area? : Option Float) : Conclusion :=
  let expression :=
    "∫_" ++ lower.text ++ "^" ++ upper.text ++ " " ++ inner ++ " d" ++ wrt
  match area? with
  | some area =>
    ⟨expression, .number area, .definiteIntegral,
      "Integrated " ++ inner ++ " from " ++ lower.text ++ " to " ++ upper.text
        ++ " with respect to " ++ wrt ++ " using Simpson's rule"⟩
  | none =>
    ⟨expression, .symbolic expression, .integral,
      "Kept the integral of " ++ inner ++ " from " ++ lower.text ++ " to " ++ upper.text
        ++ " symbolic"⟩

/-- The value of an evaluation of its own. -/
def alone (evaluator : Evaluator Value) : Except Overflow Value :=
  Prod.fst <$> evaluator.run .initial

end Evaluation

open Evaluation in
/-- Evaluates an expression where the given number of levels may still nest. -/
def Expr.evaluate : Expr → Scope → (levels : Nat) → Evaluator Value
  | expr@(.number value _), scope, levels =>
    visit scope levels expr fun _ => conclude scope (literal value)
  | expr@(.symbol name _), scope, levels =>
    visit scope levels expr fun _ => conclude scope (lookUp scope.bindings name)
  | expr@(.paren inner _), scope, levels =>
    visit scope levels expr fun levels => do
      conclude scope (enclose inner.text (← inner.evaluate scope levels))
  | expr@(.call function _ argument _ _), scope, levels =>
    visit scope levels expr fun levels => do
      conclude scope (applyFunction function (← argument.evaluate scope levels))
  | expr@(.unary op operand _), scope, levels =>
    visit scope levels expr fun levels => do
      conclude scope (applySign op (← operand.evaluate scope levels))
  | expr@(.binary op left right _), scope, levels =>
    visit scope levels expr fun levels => do
      let leftValue ← left.evaluate scope levels
      let rightValue ← right.evaluate scope levels
      conclude scope (combine op leftValue rightValue)
  | expr@(.derivative wrt body _), scope, levels =>
    visit scope levels expr fun _ => do
      conclude scope (differentiated wrt body (← Calculus.differentiate wrt body.innermost.text))
  | expr@(.indefinite wrt body _), scope, levels =>
    visit scope levels expr fun _ => do
      conclude scope (integrated wrt body (← Calculus.integrate wrt body.innermost.text))
  | expr@(.definite wrt lower upper body _), scope, levels =>
    visit scope levels expr fun levels => do
      let lowerValue ← lower.evaluate scope levels
      let upperValue ← upper.evaluate scope levels
      let sample (place : Float) :=
        alone (body.evaluate (scope.inside wrt place) scope.ceiling)
      let area : Except Overflow (Option Float) := areaBetween sample lowerValue upperValue
      conclude scope
        (integratedBetween wrt body.innermost.text lowerValue upperValue (← area))

/-- The value of an expression and the trace of its evaluation. -/
def Expr.workOut (expr : Expr) (bindings : Bindings) (ceiling : Nat) :
    Except Overflow (Value × List Step) := do
  let (value, progress) ← (expr.evaluate ⟨bindings, ceiling, true⟩ ceiling).run .initial
  return (value, progress.trace.toList)

/-- The area under an expression between two places. -/
def Expr.area? (expr : Expr) (wrt : String) (lower upper : Float) (bindings : Bindings)
    (ceiling : Nat) : Except Overflow (Option Float) :=
  let scope : Scope := ⟨bindings, ceiling, true⟩
  let sample (place : Float) :=
    Evaluation.alone (expr.evaluate (scope.inside wrt place) ceiling)
  Evaluation.areaBetween sample (.number lower) (.number upper)

end Workings
