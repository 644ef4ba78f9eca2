import Workings.Proofs.Evaluation.Survival
import Workings.Proofs.Expr.FreeNames

/-!
# Free names that are not bound

A free name that is not bound is kept as a text, and the text survives in everything that is
concluded from it, and in what is remembered: under the text of an expression nothing is remembered
that lacks one of its free names. So the value of an expression shows all its free names that are
not bound. Where no derivative and no integral is taken, every evaluation comes to an end and has
such a value.
-/

namespace Workings

/-- No derivative and no integral is taken in the expression. -/
def Expr.IsArithmetic : Expr → Prop
  | .number _ _ | .symbol _ _ => True
  | .paren inner _ => inner.IsArithmetic
  | .call _ _ argument _ _ => argument.IsArithmetic
  | .unary _ operand _ => operand.IsArithmetic
  | .binary _ left right _ => left.IsArithmetic ∧ right.IsArithmetic
  | .derivative .. | .indefinite .. | .definite .. => False

namespace Evaluation

/-! ## Evaluations that come to an end -/

/-- An evaluator that comes to an end, whatever was found out before. -/
def Halts {α : Type} (evaluator : Evaluator α) : Prop :=
  ∀ before, ∃ found after, evaluator.run before = .ok (found, after)

/-- An evaluator that goes on comes to an end if both of its parts do. -/
theorem Halts.bind {α β : Type} {evaluator : Evaluator α} {next : α → Evaluator β}
    (halts : Halts evaluator) (goesOn : ∀ found, Halts (next found)) :
    Halts (evaluator >>= next) := by
  intro before
  obtain ⟨first, between, runs⟩ := halts before
  obtain ⟨found, after, runsOn⟩ := goesOn first between
  refine ⟨found, after, ?_⟩
  rw [StateT.run_bind, runs]
  exact runsOn

/-- To conclude comes to an end. -/
theorem halts_conclude (scope : Scope) (conclusion : Conclusion) :
    Halts (conclude scope conclusion) :=
  fun _ => ⟨_, _, rfl⟩

/-- A visit comes to an end if what it computes does. -/
theorem halts_visit {compute : Nat → Evaluator Value} (computes : ∀ below, Halts (compute below))
    (scope : Scope) (levels : Nat) (expr : Expr) : Halts (visit scope levels expr compute) := by
  have remembers (below : Nat) : Halts (remember expr.text (compute below)) :=
    (computes below).bind fun _ _ => ⟨_, _, rfl⟩
  refine Halts.bind (fun before => ⟨before, before, rfl⟩) fun progress => ?_
  split
  · exact halts_conclude _ _
  · split
    · cases levels with
      | zero => exact halts_conclude _ _
      | succ below => exact remembers below
    · exact remembers levels

/-- An evaluation comes to an end where no derivative and no integral is taken. -/
theorem halts_evaluate {expr : Expr} (arithmetic : expr.IsArithmetic) (scope : Scope)
    (levels : Nat) : Halts (expr.evaluate scope levels) := by
  induction expr generalizing levels with
  | number | symbol => exact halts_visit (fun _ => halts_conclude _ _) _ _ _
  | paren _ _ hypothesis | call _ _ _ _ _ hypothesis | unary _ _ _ hypothesis =>
    exact halts_visit (fun below => (hypothesis arithmetic below).bind fun _ => halts_conclude _ _)
      _ _ _
  | binary op left right span leftHypothesis rightHypothesis =>
    refine halts_visit (fun below => ?_) _ _ _
    exact (leftHypothesis arithmetic.1 below).bind fun _ =>
      (rightHypothesis arithmetic.2 below).bind fun _ => halts_conclude _ _
  | derivative | indefinite | definite => contradiction

/-! ## Names in values -/

variable {scope : Scope} {levels : Nat} {exprs : List Expr} {before after : Progress}
  {values : List Value} {conclusion : Conclusion} {name : String}

/-- A value that shows a name if it is free in the expression. -/
def ShowsFree (name : String) (expr : Expr) (value : Value) : Prop :=
  name ∈ expr.freeNames → value.Shows name

/-- What is concluded about an expression shows a free name that is not bound if the values of the
operands do. -/
theorem Concludes.showsFree {expr : Expr} (concludes : Concludes scope expr values conclusion)
    (readable : expr.Readable) (unbound : scope.bindings.get? name = none)
    (operands : List.Forall₂ (ShowsFree name) expr.operands values) :
    ShowsFree name expr conclusion.value := by
  intro free
  rcases readable.of_mem_freeNames free with ⟨span, rfl⟩ | ⟨operand, isOperand, inOperand⟩
  · cases concludes
    simp only [lookUp, unbound]
    exact ⟨name, rfl, List.infix_rfl⟩
  · obtain ⟨value, isValue, shown⟩ : ∃ value ∈ values, value.Shows name := by
      obtain ⟨place, inRange, rfl⟩ := List.getElem_of_mem isOperand
      have valued : place < values.length := operands.length_eq ▸ inRange
      exact ⟨values[place], List.getElem_mem valued, operands.get inRange valued inOperand⟩
    exact shown.trans (concludes.shows isValue shown.isNumeric)

/-- Every value that is remembered shows a name if it is free in the expression that the value is
remembered for. -/
def KeepsName (name : String) (progress : Progress) : Prop :=
  ∀ entry ∈ progress.memo, ∃ expr : Expr, expr.Discloses name ∧ expr.text = entry.1
    ∧ ShowsFree name expr entry.2

/-- A conclusion that is noted is not remembered by that. -/
theorem KeepsName.note (keeps : KeepsName name before) (scope : Scope) (conclusion : Conclusion) :
    KeepsName name (before.note scope conclusion) := by
  unfold Progress.note
  split <;> exact keeps

/-- A value that shows the names of its expression may be remembered for the expression. -/
theorem KeepsName.remember (keeps : KeepsName name before) {expr : Expr}
    (discloses : expr.Discloses name) {value : Value} (shows : ShowsFree name expr value) :
    KeepsName name (before.remember expr.text value) :=
  List.forall_mem_cons.2 ⟨⟨expr, discloses, rfl, shows⟩, keeps⟩

/-- A value that is recalled shows what is free in the expression that it is recalled for: the text
of the expression tells its free names. -/
theorem KeepsName.showsFree (keeps : KeepsName name before) {expr : Expr}
    (discloses : expr.Discloses name) {value : Value}
    (remembered : before.memo.lookup expr.text = some value) : ShowsFree name expr value := by
  intro free
  obtain ⟨front, back, memo_eq, -⟩ := List.lookup_eq_some_iff.1 remembered
  obtain ⟨other, otherDiscloses, same, shows⟩ := keeps (expr.text, value) (by simp [memo_eq])
  exact shows ((discloses.mem_freeNames_iff_of_text_eq otherDiscloses same.symm).1 free)

/-- Along a course that refuses nothing, every value shows a name that is not bound if it is free in
the expression. -/
theorem Course.showsFree (course : Course scope levels exprs before values after)
    (unbound : scope.bindings.get? name = none) (discloses : ∀ expr ∈ exprs, expr.Discloses name)
    (shallow : ∀ expr ∈ exprs, expr.descent ≤ levels) (keeps : KeepsName name before) :
    List.Forall₂ (ShowsFree name) exprs values ∧ KeepsName name after := by
  induction course with
  | done => exact ⟨.nil, keeps⟩
  | recalled remembered _ hypothesis =>
    obtain ⟨current, others⟩ := List.forall_mem_cons.1 discloses
    obtain ⟨shown, keepsOn⟩ := hypothesis others (List.forall_mem_cons.1 shallow).2
      (keeps.note _ _)
    exact ⟨.cons (keeps.showsFree current remembered) shown, keepsOn⟩
  | refused nests _ _ =>
    have positive := Expr.descent_pos nests
    exact absurd (shallow _ (.head _)) (by omega)
  | @concluded levels below expr _ _ _ _ _ _ conclusion descends _ concludes _ operandHypothesis
      hypothesis =>
    obtain ⟨current, others⟩ := List.forall_mem_cons.1 discloses
    obtain ⟨descent_le, shallowOthers⟩ := List.forall_mem_cons.1 shallow
    have operandsShallow (operand : Expr) (member : operand ∈ expr.operands) :
        operand.descent ≤ below := by
      have bounded := Expr.descent_le_of_mem_operands member
      by_cases nests : expr.nests
      · rw [if_pos nests] at bounded descends
        omega
      · rw [if_neg nests] at bounded descends
        omega
    obtain ⟨operandsShown, keepsMiddle⟩ :=
      operandHypothesis (fun _ member => current.operand member) operandsShallow keeps
    have shows := concludes.showsFree current.readable unbound operandsShown
    have remembers := (keepsMiddle.note scope conclusion).remember current shows
    obtain ⟨shown, keepsOn⟩ := hypothesis others shallowOthers remembers
    exact ⟨.cons shows shown, keepsOn⟩

end Evaluation

namespace Expr

open Evaluation

/-- The value of an expression shows every free name that is not bound and that no number of the
expression is written like. Where no derivative and no integral is taken, there is a value. -/
theorem IsArithmetic.workOut_shows_free {expr : Expr} (arithmetic : expr.IsArithmetic)
    {name : String} (discloses : expr.Discloses name) (free : name ∈ expr.freeNames)
    {bindings : Bindings} (unbound : bindings.get? name = none) {ceiling : Nat}
    (shallow : expr.descent ≤ ceiling) :
    ∃ value trace, expr.workOut bindings ceiling = .ok (value, trace) ∧ value.Shows name := by
  obtain ⟨value, after, evaluates⟩ :=
    halts_evaluate arithmetic ⟨bindings, ceiling, true⟩ ceiling .initial
  have worksOut : expr.workOut bindings ceiling = .ok (value, after.trace.toList) := by
    unfold workOut
    rw [evaluates]
    rfl
  refine ⟨value, _, worksOut, ?_⟩
  have course := Course.of_evaluate expr evaluates
  have initial : KeepsName name .initial := List.forall_mem_nil _
  have shown := (course.showsFree unbound (List.forall_mem_singleton.2 discloses)
    (List.forall_mem_singleton.2 shallow) initial).1
  cases shown with
  | cons shows _ => exact shows free

end Expr

end Workings
