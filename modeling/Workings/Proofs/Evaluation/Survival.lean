import Workings.Proofs.Evaluation.Trace

/-!
# What has no number survives

A step without a number has a text as its result, and the text stands in everything that is
concluded from it. So a message or a free name that is met anywhere can be read in the value of the
whole expression, and an expression is worth a number only if every step on the way is.
-/

namespace Workings

/-- A value that is no number, with the given text somewhere in it. -/
def Value.Shows (value : Value) (part : String) : Prop :=
  ∃ whole, value = .symbolic whole ∧ part.toList <:+: whole.toList

namespace Value.Shows

/-- A value that is no number shows its own text. -/
theorem text {value : Value} (notNumeric : value.isNumeric = false) : value.Shows value.text := by
  cases value with
  | number number => contradiction
  | symbolic whole => exact ⟨whole, rfl, List.infix_rfl⟩

/-- A value that shows a text is no number. -/
theorem isNumeric {value : Value} {part : String} (shown : value.Shows part) :
    value.isNumeric = false := by
  obtain ⟨whole, rfl, _⟩ := shown
  rfl

/-- What shows the text of a value shows everything that the value shows. -/
theorem trans {value other : Value} {part : String} (shown : value.Shows part)
    (within : other.Shows value.text) : other.Shows part := by
  obtain ⟨whole, rfl, part_infix⟩ := shown
  obtain ⟨larger, rfl, within⟩ := within
  exact ⟨larger, rfl, part_infix.trans within⟩

/-- A text shows what stands between its beginning and its end. -/
theorem between (before part after : String) :
    (Value.symbolic (before ++ part ++ after)).Shows part :=
  ⟨_, rfl, before.toList, after.toList, by simp⟩

end Value.Shows

namespace Evaluation

open Value (Shows)

variable {scope : Scope} {levels : Nat} {exprs : List Expr} {before after : Progress}
  {values : List Value} {conclusion : Conclusion}

/-- An operator keeps the texts of both operands if one of them is no number. -/
theorem shows_combine (op : BinaryOp) {left right : Value}
    (notNumeric : left.isNumeric = false ∨ right.isNumeric = false) :
    (combine op left right).value.Shows left.text
      ∧ (combine op left right).value.Shows right.text := by
  have kept : (combine op left right).value
      = .symbolic ("(" ++ (left.text ++ " " ++ op.symbol ++ " " ++ right.text) ++ ")") := by
    cases left <;> cases right <;> simp_all [combine, Value.isNumeric, Value.number?]
  rw [kept]
  constructor
  · exact ⟨_, rfl, "(".toList, (" " ++ op.symbol ++ " " ++ right.text ++ ")").toList, by simp⟩
  · exact ⟨_, rfl, ("(" ++ left.text ++ " " ++ op.symbol ++ " ").toList, ")".toList, by simp⟩

/-- A bound that is no number leaves no area to be found. -/
theorem areaBetween_of_not_numeric {m : Type → Type} [Monad m] (sample : Float → m Value)
    {lower upper : Value} (notNumeric : lower.isNumeric = false ∨ upper.isNumeric = false) :
    areaBetween sample lower upper = pure none := by
  cases lower <;> cases upper <;> simp_all [areaBetween, Value.isNumeric, Value.number?]

/-- An integral without an area keeps the texts of both bounds. -/
theorem shows_integratedBetween (wrt inner : String) (lower upper : Value) :
    (integratedBetween wrt inner lower upper none).value.Shows lower.text
      ∧ (integratedBetween wrt inner lower upper none).value.Shows upper.text := by
  constructor
  · exact ⟨_, rfl, "∫_".toList, ("^" ++ upper.text ++ " " ++ inner ++ " d" ++ wrt).toList, by simp⟩
  · exact ⟨_, rfl, ("∫_" ++ lower.text ++ "^").toList, (" " ++ inner ++ " d" ++ wrt).toList,
      by simp⟩

/-- What is concluded from a value that is no number shows the text of the value. -/
theorem Concludes.shows {expr : Expr} (concludes : Concludes scope expr values conclusion)
    {value : Value} (member : value ∈ values) (notNumeric : value.isNumeric = false) :
    conclusion.value.Shows value.text := by
  cases concludes with
  | number | symbol | derivative | indefinite => contradiction
  | paren =>
    obtain rfl := List.mem_singleton.1 member
    exact .text notNumeric
  | @call function _ _ _ _ argument =>
    obtain rfl := List.mem_singleton.1 member
    cases value with
    | number number => contradiction
    | symbolic text =>
      simpa [applyFunction, Value.text] using Shows.between (function ++ "(") text ")"
  | @unary op _ _ operand =>
    obtain rfl := List.mem_singleton.1 member
    cases value with
    | number number => contradiction
    | symbolic text => simpa [applySign, Value.text] using Shows.between op.symbol text ""
  | @binary op _ _ _ left right =>
    obtain rfl | rfl : value = left ∨ value = right := by simpa using member
    · exact (shows_combine op (.inl notNumeric)).1
    · exact (shows_combine op (.inr notNumeric)).2
  | @definite wrt _ _ body _ lower upper area? samples =>
    obtain rfl | rfl : value = lower ∨ value = upper := by simpa using member
    · rw [areaBetween_of_not_numeric _ (.inl notNumeric)] at samples
      obtain rfl := Except.ok.inj samples
      exact (shows_integratedBetween _ _ _ _).1
    · rw [areaBetween_of_not_numeric _ (.inr notNumeric)] at samples
      obtain rfl := Except.ok.inj samples
      exact (shows_integratedBetween _ _ _ _).2

/-- A conclusion that is noted without a number shows the result of its step. -/
theorem shows_of_mem_note {progress : Progress} {step : Step}
    (member : step ∈ (progress.note scope conclusion).trace) (notNumeric : step.isNumeric = false) :
    step ∈ progress.trace ∨ conclusion.value.Shows step.result := by
  rcases of_mem_note member with earlier | rfl
  · exact .inl earlier
  · exact .inr (.text notNumeric)

/-- Every step without a number that a course adds to the trace can be read in one of its values. A
value that is recalled stands for the steps that led to it, which are in the trace already. -/
theorem Course.shows (course : Course scope levels exprs before values after) {step : Step}
    (member : step ∈ after.trace) (notNumeric : step.isNumeric = false) :
    step ∈ before.trace ∨ ∃ value ∈ values, value.Shows step.result := by
  induction course with
  | done => exact .inl member
  | recalled _ _ hypothesis | refused _ _ hypothesis =>
    rcases hypothesis member with noted | ⟨value, inRest, shown⟩
    · exact (shows_of_mem_note noted notNumeric).imp_right fun shown => ⟨_, .head _, shown⟩
    · exact .inr ⟨value, .tail _ inRest, shown⟩
  | concluded _ _ concludes _ operandHypothesis hypothesis =>
    rcases hypothesis member with noted | ⟨value, inRest, shown⟩
    · rcases shows_of_mem_note noted notNumeric with earlier | shown
      · rcases operandHypothesis earlier with before | ⟨operand, isOperand, shown⟩
        · exact .inl before
        · exact .inr ⟨_, .head _, shown.trans (concludes.shows isOperand shown.isNumeric)⟩
      · exact .inr ⟨_, .head _, shown⟩
    · exact .inr ⟨value, .tail _ inRest, shown⟩

end Evaluation

namespace Expr

open Evaluation

/-- Whatever is evaluated, every step without a number can be read in the value. So the value is a
number exactly if all steps are, and shows the message of every obstacle and every free name that
was met. -/
theorem workOut_shows {expr : Expr} {bindings : Bindings} {ceiling : Nat} {value : Value}
    {trace : List Step} (worksOut : expr.workOut bindings ceiling = .ok (value, trace)) :
    (∀ step ∈ trace, step.isNumeric = false → value.Shows step.result)
      ∧ (value.isNumeric = true ↔ ∀ step ∈ trace, step.isNumeric = true)
      ∧ (∀ step ∈ trace, step.isError = true ∨ step.isWarning = true →
          ∃ obstacle : Obstacle, step.result = obstacle.message ∧ value.Shows obstacle.message)
      ∧ ∀ step ∈ trace, step.operation = .freeName →
          bindings.get? step.expression = none ∧ value.Shows step.expression := by
  obtain ⟨after, rfl, course⟩ := course_of_workOut worksOut
  have drawn {step : Step} (member : step ∈ after.trace.toList) :
      ∃ conclusion number, step = conclusion.step number ∧ Drawn _ _ conclusion :=
    (course.drawn (Array.mem_toList_iff.1 member)).resolve_left (by simp [Progress.initial])
  have shown {step : Step} (member : step ∈ after.trace.toList)
      (notNumeric : step.isNumeric = false) : value.Shows step.result := by
    rcases course.shows (Array.mem_toList_iff.1 member) notNumeric with earlier | shown
    · simp [Progress.initial] at earlier
    · simpa using shown
  refine ⟨fun step => shown, ⟨?_, ?_⟩, ?_, ?_⟩
  · intro numeric step member
    cases stepNumeric : step.isNumeric with
    | true => rfl
    | false =>
      rw [(shown member stepNumeric).isNumeric] at numeric
      contradiction
  · intro numeric
    obtain ⟨step, isLast, -, same⟩ := course.ends rfl
    rw [← same]
    exact numeric step (Array.mem_toList_iff.2 (Array.mem_of_back? isLast))
  · intro step member tells
    obtain ⟨conclusion, number, rfl, drawn⟩ := drawn member
    obtain ⟨expression, obstacle, rfl, -⟩ :=
      drawn.of_obstacle (tells.imp of_decide_eq_true of_decide_eq_true)
    have readable := shown member rfl
    exact ⟨obstacle, rfl, readable⟩
  · intro step member free
    obtain ⟨conclusion, number, rfl, drawn⟩ := drawn member
    obtain ⟨unbound, named⟩ := drawn.of_freeName free
    have shown := shown member (by simp [Conclusion.step, named, Value.isNumeric])
    simp only [Conclusion.step, named, Value.text] at shown
    exact ⟨unbound, shown⟩

/-- A free name and a division by nought inside parentheses. -/
theorem workOut_shows_quotient :
    let message := "Error: Division by zero (1 / 0)"
    let quotient : Expr := .binary .dividedBy (.number 1 ⟨0, 0⟩) (.number 0 ⟨0, 0⟩) ⟨0, 0⟩
    ∃ trace, (Expr.binary .plus (.symbol "x" ⟨0, 0⟩) (.paren quotient ⟨0, 0⟩) ⟨0, 0⟩).workOut
          Bindings.empty 1 = .ok (.symbolic ("(x + " ++ message ++ ")"), trace)
      ∧ ∀ step ∈ trace, step.isNumeric = false →
          (Value.symbolic ("(x + " ++ message ++ ")")).Shows step.result := by
  refine .imp (fun trace worksOut => ⟨worksOut, (workOut_shows worksOut).1⟩) ⟨_, rfl⟩

end Expr

end Workings
