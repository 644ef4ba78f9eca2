import Workings.Evaluation

/-!
# The course of an evaluation

An evaluation visits expressions one after the other. A visit recalls a value, refuses to nest, or
evaluates the operands of the expression and draws a conclusion from their values. The course of an
evaluation is made of its visits. It is the relation, not the evaluator, that laws about traces are
proved of: what a conclusion says is settled once for each form of expression, and carried along
the course.
-/

namespace Workings

/-- The progress with a conclusion at the end of the trace, if one is kept. -/
def Progress.note (progress : Progress) (scope : Scope) (conclusion : Conclusion) : Progress :=
  if scope.recording then
    { progress with trace := progress.trace.push (conclusion.step (progress.trace.size + 1)) }
  else progress

/-- The progress with a value that is remembered for a text. -/
def Progress.remember (progress : Progress) (key : String) (value : Value) : Progress :=
  { progress with memo := (key, value) :: progress.memo }

/-- The expressions that are evaluated before an expression, in their order. Derivatives and
integrals without bounds are worked out on texts, and the body of an integral with bounds is
evaluated apart, at every sample. -/
def Expr.operands : Expr → List Expr
  | .number _ _ | .symbol _ _ | .derivative _ _ _ | .indefinite _ _ _ => []
  | .paren inner _ => [inner]
  | .call _ _ argument _ _ => [argument]
  | .unary _ operand _ => [operand]
  | .binary _ left right _ => [left, right]
  | .definite _ lower upper _ _ => [lower, upper]

namespace Evaluation

/-- What is concluded about an expression from the values of its operands. -/
inductive Concludes (scope : Scope) : Expr → List Value → Conclusion → Prop where
  | number {value : Float} {span : Span} :
      Concludes scope (.number value span) [] (literal value)
  | symbol {name : String} {span : Span} :
      Concludes scope (.symbol name span) [] (lookUp scope.bindings name)
  | paren {inner : Expr} {span : Span} {value : Value} :
      Concludes scope (.paren inner span) [value] (enclose inner.text value)
  | call {function : String} {argument : Expr} {functionSpan parenSpan span : Span}
      {value : Value} :
      Concludes scope (.call function functionSpan argument parenSpan span) [value]
        (applyFunction function value)
  | unary {op : UnaryOp} {operand : Expr} {span : Span} {value : Value} :
      Concludes scope (.unary op operand span) [value] (applySign op value)
  | binary {op : BinaryOp} {left right : Expr} {span : Span} {leftValue rightValue : Value} :
      Concludes scope (.binary op left right span) [leftValue, rightValue]
        (combine op leftValue rightValue)
  | derivative {wrt derived : String} {body : Expr} {span : Span}
      (derives : Calculus.differentiate wrt body.innermost.text = .ok derived) :
      Concludes scope (.derivative wrt body span) [] (differentiated wrt body derived)
  | indefinite {wrt antiderivative : String} {body : Expr} {span : Span}
      (integrates : Calculus.integrate wrt body.innermost.text = .ok antiderivative) :
      Concludes scope (.indefinite wrt body span) [] (integrated wrt body antiderivative)
  | definite {wrt : String} {lower upper body : Expr} {span : Span}
      {lowerValue upperValue : Value} {area? : Option Float}
      (samples : areaBetween
        (fun place => alone (body.evaluate (scope.inside wrt place) scope.ceiling))
        lowerValue upperValue = .ok area?) :
      Concludes scope (.definite wrt lower upper body span) [lowerValue, upperValue]
        (integratedBetween wrt body.innermost.text lowerValue upperValue area?)

/-- The visits of expressions one after the other, where the given number of levels may still nest:
their values, and the progress from before the first visit to after the last one. -/
inductive Course (scope : Scope) :
    (levels : Nat) → List Expr → Progress → List Value → Progress → Prop where
  | done {levels : Nat} {progress : Progress} : Course scope levels [] progress [] progress
  | recalled {levels : Nat} {expr : Expr} {rest : List Expr} {before after : Progress}
      {value : Value} {values : List Value}
      (remembered : before.memo.lookup expr.text = some value)
      (goesOn : Course scope levels rest
        (before.note scope (Evaluation.recalled expr.text value)) values after) :
      Course scope levels (expr :: rest) before (value :: values) after
  | refused {expr : Expr} {rest : List Expr} {before after : Progress} {values : List Value}
      (nests : expr.nests)
      (goesOn : Course scope 0 rest
        (before.note scope (.ofObstacle expr.text (.tooDeep scope.ceiling))) values after) :
      Course scope 0 (expr :: rest) before
        (.symbolic (Obstacle.tooDeep scope.ceiling).message :: values) after
  | concluded {levels below : Nat} {expr : Expr} {rest : List Expr}
      {before middle after : Progress} {operandValues values : List Value}
      {conclusion : Conclusion}
      (descends : levels = if expr.nests then below + 1 else below)
      (operands : Course scope below expr.operands before operandValues middle)
      (concludes : Concludes scope expr operandValues conclusion)
      (goesOn : Course scope levels rest
        ((middle.note scope conclusion).remember expr.text conclusion.value) values after) :
      Course scope levels (expr :: rest) before (conclusion.value :: values) after

variable {scope : Scope} {levels : Nat} {before middle after : Progress}

/-- Visits that follow visits. -/
theorem Course.append {first second : List Expr} {firstValues secondValues : List Value}
    (earlier : Course scope levels first before firstValues middle)
    (later : Course scope levels second middle secondValues after) :
    Course scope levels (first ++ second) before (firstValues ++ secondValues) after := by
  induction earlier with
  | done => exact later
  | recalled remembered _ hypothesis => exact .recalled remembered (hypothesis later)
  | refused nests _ hypothesis => exact .refused nests (hypothesis later)
  | concluded descends operands concludes _ _ hypothesis =>
    exact .concluded descends operands concludes (hypothesis later)

/-! ## Evaluations take a course -/

/-- An evaluator that goes on has come to an end if both of its parts have. -/
theorem of_run_bind {α β : Type} {evaluator : Evaluator α} {next : α → Evaluator β} {found : β}
    (ends : (evaluator >>= next).run before = .ok (found, after)) :
    ∃ first between, evaluator.run before = .ok (first, between)
      ∧ (next first).run between = .ok (found, after) := by
  rw [StateT.run_bind] at ends
  cases result : evaluator.run before with
  | error overflow =>
    rw [result] at ends
    contradiction
  | ok pair =>
    rw [result] at ends
    exact ⟨pair.1, pair.2, rfl, ends⟩

/-- A computation outside the progress leaves it as it was. -/
theorem of_run_lift {α : Type} {computed : Except Overflow α} {found : α}
    (ends : (liftM computed : Evaluator α).run before = .ok (found, after)) :
    computed = .ok found ∧ before = after := by
  cases computed with
  | error overflow => contradiction
  | ok result =>
    obtain ⟨rfl, rfl⟩ := Prod.mk.inj (Except.ok.inj ends)
    exact ⟨rfl, rfl⟩

/-- What is answered and left by an evaluator that concludes is what was concluded. -/
theorem of_run_conclude {conclusion : Conclusion} {value : Value}
    (ends : (conclude scope conclusion).run before = .ok (value, after)) :
    conclusion.value = value ∧ before.note scope conclusion = after :=
  Prod.mk.inj (Except.ok.inj ends)

/-- An expression is computed by evaluating its operands and drawing a conclusion. -/
def Computes (scope : Scope) (expr : Expr) (compute : Nat → Evaluator Value) : Prop :=
  ∀ {below : Nat} {before after : Progress} {value : Value},
    (compute below).run before = .ok (value, after) →
    ∃ operandValues middle conclusion, Course scope below expr.operands before operandValues middle
      ∧ Concludes scope expr operandValues conclusion
      ∧ conclusion.value = value ∧ middle.note scope conclusion = after

/-- A visit is a course of one expression. -/
theorem Computes.course {expr : Expr} {compute : Nat → Evaluator Value} {value : Value}
    (computes : Computes scope expr compute)
    (visits : (visit scope levels expr compute).run before = .ok (value, after)) :
    Course scope levels [expr] before [value] after := by
  have ofRemember {below : Nat} (descends : levels = if expr.nests then below + 1 else below)
      (remembers : (remember expr.text (compute below)).run before = .ok (value, after)) :
      Course scope levels [expr] before [value] after := by
    obtain ⟨found, between, computed, remembered⟩ := of_run_bind remembers
    obtain ⟨operandValues, middle, conclusion, operands, concludes, rfl, rfl⟩ := computes computed
    obtain ⟨rfl, rfl⟩ := Prod.mk.inj (Except.ok.inj remembered)
    exact .concluded descends operands concludes .done
  obtain ⟨progress, between, got, goesOn⟩ := of_run_bind visits
  obtain ⟨rfl, rfl⟩ := Prod.mk.inj (Except.ok.inj got)
  split at goesOn
  · rename_i recalledValue remembered
    obtain ⟨rfl, rfl⟩ := of_run_conclude goesOn
    exact .recalled remembered .done
  · split at goesOn
    · rename_i nests
      cases levels with
      | zero =>
        obtain ⟨rfl, rfl⟩ := of_run_conclude goesOn
        exact .refused nests .done
      | succ below => exact ofRemember (by rw [if_pos nests]) goesOn
    · rename_i flat
      exact ofRemember (by rw [if_neg flat]) goesOn

/-- Every evaluation that comes to an end takes a course. -/
theorem Course.of_evaluate (expr : Expr) {value : Value}
    (evaluates : (expr.evaluate scope levels).run before = .ok (value, after)) :
    Course scope levels [expr] before [value] after := by
  induction expr generalizing levels before value after with
  | number number span =>
    refine Computes.course (fun ends => ?_) evaluates
    exact ⟨[], _, _, .done, .number, of_run_conclude ends⟩
  | symbol name span =>
    refine Computes.course (fun ends => ?_) evaluates
    exact ⟨[], _, _, .done, .symbol, of_run_conclude ends⟩
  | paren inner span hypothesis =>
    refine Computes.course (fun ends => ?_) evaluates
    obtain ⟨found, between, inside, concluded⟩ := of_run_bind ends
    exact ⟨[found], _, _, hypothesis inside, .paren, of_run_conclude concluded⟩
  | call function functionSpan argument parenSpan span hypothesis =>
    refine Computes.course (fun ends => ?_) evaluates
    obtain ⟨found, between, inside, concluded⟩ := of_run_bind ends
    exact ⟨[found], _, _, hypothesis inside, .call, of_run_conclude concluded⟩
  | unary op operand span hypothesis =>
    refine Computes.course (fun ends => ?_) evaluates
    obtain ⟨found, between, inside, concluded⟩ := of_run_bind ends
    exact ⟨[found], _, _, hypothesis inside, .unary, of_run_conclude concluded⟩
  | binary op left right span leftHypothesis rightHypothesis =>
    refine Computes.course (fun ends => ?_) evaluates
    obtain ⟨leftValue, between, leftEnds, goesOn⟩ := of_run_bind ends
    obtain ⟨rightValue, behind, rightEnds, concluded⟩ := of_run_bind goesOn
    have both := (leftHypothesis leftEnds).append (rightHypothesis rightEnds)
    exact ⟨[leftValue, rightValue], _, _, both, .binary, of_run_conclude concluded⟩
  | derivative wrt body span =>
    refine Computes.course (fun ends => ?_) evaluates
    obtain ⟨derived, between, lifted, concluded⟩ := of_run_bind ends
    obtain ⟨derives, rfl⟩ := of_run_lift lifted
    exact ⟨[], _, _, .done, .derivative derives, of_run_conclude concluded⟩
  | indefinite wrt body span =>
    refine Computes.course (fun ends => ?_) evaluates
    obtain ⟨antiderivative, between, lifted, concluded⟩ := of_run_bind ends
    obtain ⟨integrates, rfl⟩ := of_run_lift lifted
    exact ⟨[], _, _, .done, .indefinite integrates, of_run_conclude concluded⟩
  | definite wrt lower upper body span lowerHypothesis upperHypothesis =>
    refine Computes.course (fun ends => ?_) evaluates
    obtain ⟨lowerValue, between, lowerEnds, goesOn⟩ := of_run_bind ends
    obtain ⟨upperValue, behind, upperEnds, goesOn⟩ := of_run_bind goesOn
    obtain ⟨area?, beyond, lifted, concluded⟩ := of_run_bind goesOn
    obtain ⟨samples, rfl⟩ := of_run_lift lifted
    have both := (lowerHypothesis lowerEnds).append (upperHypothesis upperEnds)
    exact ⟨[lowerValue, upperValue], _, _, both, .definite samples, of_run_conclude concluded⟩

end Evaluation

open Evaluation in
/-- Working an expression out takes a course that ends with its value and its trace. -/
theorem Expr.course_of_workOut {expr : Expr} {bindings : Bindings} {ceiling : Nat} {value : Value}
    {trace : List Step} (worksOut : expr.workOut bindings ceiling = .ok (value, trace)) :
    ∃ after : Progress, after.trace.toList = trace
      ∧ Course ⟨bindings, ceiling, true⟩ ceiling [expr] .initial [value] after := by
  unfold workOut at worksOut
  cases result : (expr.evaluate ⟨bindings, ceiling, true⟩ ceiling).run .initial with
  | error overflow =>
    rw [result] at worksOut
    contradiction
  | ok found =>
    rw [result] at worksOut
    obtain ⟨rfl, rfl⟩ := Prod.mk.inj (Except.ok.inj worksOut)
    exact ⟨found.2, rfl, .of_evaluate expr result⟩

end Workings
