import Workings.Proofs.Evaluation.Course

/-!
# Traces

The trace of an evaluation counts its steps from one, and ends with the step of the value that the
evaluation answers. Every step is that of a conclusion: about a value that is recalled, about an
expression that nests too deeply, or drawn from the values of operands.
-/

namespace Workings

/-- How many levels deep an evaluation goes. It goes into the bounds of an integral, but not into
what it works out on texts, and samples are evaluated from the top. -/
def Expr.descent : Expr → Nat
  | .number _ _ | .symbol _ _ => 0
  | .paren inner _ => inner.descent + 1
  | .call _ _ argument _ _ => argument.descent + 1
  | .unary _ operand _ => operand.descent + 1
  | .binary _ left right _ => max left.descent right.descent
  | .derivative _ _ _ | .indefinite _ _ _ => 1
  | .definite _ lower upper _ _ => max lower.descent upper.descent + 1

/-- What nests takes a level. -/
theorem Expr.descent_pos {expr : Expr} (nests : expr.nests) : 0 < expr.descent := by
  cases expr <;> simp_all [Expr.nests, descent]

/-- An operand goes as deep as is left below its expression. -/
theorem Expr.descent_le_of_mem_operands {expr operand : Expr} (member : operand ∈ expr.operands) :
    (if expr.nests then operand.descent + 1 else operand.descent) ≤ expr.descent := by
  cases expr with
  | binary op left right span =>
    obtain rfl | rfl : operand = left ∨ operand = right := by simpa [operands] using member
    · exact Nat.le_max_left _ _
    · exact Nat.le_max_right _ _
  | definite wrt lower upper body span =>
    obtain rfl | rfl : operand = lower ∨ operand = upper := by simpa [operands] using member
    · exact Nat.succ_le_succ (Nat.le_max_left _ _)
    · exact Nat.succ_le_succ (Nat.le_max_right _ _)
  | paren inner span => exact List.mem_singleton.1 member ▸ Nat.le_refl _
  | call function functionSpan argument parenSpan span =>
    exact List.mem_singleton.1 member ▸ Nat.le_refl _
  | unary op inner span => exact List.mem_singleton.1 member ▸ Nat.le_refl _
  | number | symbol | derivative | indefinite => contradiction

namespace Evaluation

/-! ## Which steps there are -/

/-- The conclusions whose steps make up a trace. `deep` is the reason that there must be for a
refusal to nest. -/
inductive Drawn (scope : Scope) (deep : Prop) : Conclusion → Prop where
  | recalled (key : String) (value : Value) : Drawn scope deep (Evaluation.recalled key value)
  | refused (key : String) (tooDeep : deep) :
      Drawn scope deep (.ofObstacle key (.tooDeep scope.ceiling))
  | concluded {expr : Expr} {values : List Value} {conclusion : Conclusion}
      (concludes : Concludes scope expr values conclusion) : Drawn scope deep conclusion

variable {scope : Scope} {levels : Nat} {exprs : List Expr} {before after : Progress}
  {values : List Value} {conclusion : Conclusion}

/-- Conclusions are drawn for weaker reasons as well. -/
theorem Drawn.imp {deep deeper : Prop} (drawn : Drawn scope deep conclusion)
    (implies : deep → deeper) : Drawn scope deeper conclusion := by
  cases drawn with
  | recalled key value => exact .recalled key value
  | refused key tooDeep => exact .refused key (implies tooDeep)
  | concluded concludes => exact .concluded concludes

/-- Expressions that are visited before give no fewer reasons. -/
theorem Drawn.tail {expr : Expr}
    (drawn : Drawn scope (∃ other ∈ exprs, levels < other.descent) conclusion) :
    Drawn scope (∃ other ∈ expr :: exprs, levels < other.descent) conclusion :=
  drawn.imp (.imp fun _ => .imp_left (.tail _))

/-- A step of a trace to which a conclusion was added is an earlier one or that of the
conclusion. -/
theorem of_mem_note {progress : Progress} {step : Step}
    (member : step ∈ (progress.note scope conclusion).trace) :
    step ∈ progress.trace ∨ step = conclusion.step (progress.trace.size + 1) := by
  unfold Progress.note at member
  split at member
  · exact Array.mem_push.1 member
  · exact .inl member

/-- A trace keeps its steps where a conclusion is added. -/
theorem mem_note_of_mem {step : Step} (member : step ∈ before.trace) :
    step ∈ (before.note scope conclusion).trace := by
  unfold Progress.note
  split
  · exact Array.mem_push_of_mem _ member
  · exact member

/-- A conclusion is added to the trace if one is kept. -/
theorem step_mem_note (recording : scope.recording) (progress : Progress)
    (conclusion : Conclusion) :
    conclusion.step (progress.trace.size + 1) ∈ (progress.note scope conclusion).trace := by
  unfold Progress.note
  rw [if_pos recording]
  exact Array.mem_push_self

/-- A course keeps the steps of the trace. -/
theorem Course.keeps (course : Course scope levels exprs before values after) {step : Step}
    (member : step ∈ before.trace) : step ∈ after.trace := by
  induction course with
  | done => exact member
  | recalled _ _ hypothesis => exact hypothesis (mem_note_of_mem member)
  | refused _ _ hypothesis => exact hypothesis (mem_note_of_mem member)
  | concluded _ _ _ _ operandHypothesis hypothesis =>
    exact hypothesis (mem_note_of_mem (operandHypothesis member))

/-- Every step that a course adds to the trace is that of a conclusion. None refuses to nest unless
an expression goes deeper than there are levels. -/
theorem Course.drawn (course : Course scope levels exprs before values after) {step : Step}
    (member : step ∈ after.trace) :
    step ∈ before.trace ∨ ∃ conclusion number, step = conclusion.step number
      ∧ Drawn scope (∃ expr ∈ exprs, levels < expr.descent) conclusion := by
  induction course with
  | done => exact .inl member
  | recalled remembered _ hypothesis =>
    rcases hypothesis member with noted | ⟨conclusion, number, rfl, drawn⟩
    · rcases of_mem_note noted with earlier | rfl
      · exact .inl earlier
      · exact .inr ⟨_, _, rfl, .recalled _ _⟩
    · exact .inr ⟨conclusion, number, rfl, drawn.tail⟩
  | refused nests _ hypothesis =>
    rcases hypothesis member with noted | ⟨conclusion, number, rfl, drawn⟩
    · rcases of_mem_note noted with earlier | rfl
      · exact .inl earlier
      · exact .inr ⟨_, _, rfl, .refused _ ⟨_, .head _, Expr.descent_pos nests⟩⟩
    · exact .inr ⟨conclusion, number, rfl, drawn.tail⟩
  | concluded descends operands concludes _ operandHypothesis hypothesis =>
    rcases hypothesis member with noted | ⟨conclusion, number, rfl, drawn⟩
    · rcases of_mem_note noted with earlier | rfl
      · rcases operandHypothesis earlier with before | ⟨conclusion, number, rfl, drawn⟩
        · exact .inl before
        · refine .inr ⟨conclusion, number, rfl, drawn.imp ?_⟩
          -- An operand that goes deeper than is left below makes its expression go deeper, too.
          rintro ⟨operand, isOperand, deeper⟩
          have bounded := Expr.descent_le_of_mem_operands isOperand
          refine ⟨_, .head _, ?_⟩
          split at descends <;> rename_i nests
          · rw [if_pos nests] at bounded
            omega
          · rw [if_neg nests] at bounded
            omega
      · exact .inr ⟨_, _, rfl, .concluded concludes⟩
    · exact .inr ⟨conclusion, number, rfl, drawn.tail⟩

/-! ## How they are counted -/

/-- The steps of a trace are counted from one. -/
def Counted (progress : Progress) : Prop :=
  progress.trace.toList.map Step.number = List.range' 1 progress.trace.size

/-- A conclusion is counted behind the steps before it. -/
theorem Counted.note {progress : Progress} (counted : Counted progress) (scope : Scope)
    (conclusion : Conclusion) : Counted (progress.note scope conclusion) := by
  unfold Counted Progress.note
  split
  · rw [Array.toList_push, List.map_append, counted, Array.size_push, List.range'_1_concat,
      Nat.add_comm 1]
    rfl
  · exact counted

/-- Every course goes on counting. -/
theorem Course.counted (course : Course scope levels exprs before values after)
    (counted : Counted before) : Counted after := by
  induction course with
  | done => exact counted
  | recalled _ _ hypothesis => exact hypothesis (counted.note _ _)
  | refused _ _ hypothesis => exact hypothesis (counted.note _ _)
  | concluded _ _ _ _ operandHypothesis hypothesis =>
    exact hypothesis ((operandHypothesis counted).note _ _)

/-! ## How they end -/

/-- The last step of the trace has the value as its result. -/
def Ends (progress : Progress) (value : Value) : Prop :=
  ∃ step, progress.trace.back? = some step ∧ step.result = value.text
    ∧ step.isNumeric = value.isNumeric

/-- A conclusion that is kept ends the trace with its value. -/
theorem ends_note (recording : scope.recording) (progress : Progress) (conclusion : Conclusion) :
    Ends (progress.note scope conclusion) conclusion.value := by
  unfold Ends Progress.note
  rw [if_pos recording, Array.back?_push]
  exact ⟨_, rfl, rfl, rfl⟩

/-- The visit of an expression ends the trace with its value. -/
theorem Course.ends {expr : Expr} {value : Value} (recording : scope.recording)
    (course : Course scope levels [expr] before [value] after) : Ends after value := by
  cases course with
  | recalled remembered goesOn =>
    cases goesOn
    exact ends_note recording _ _
  | refused nests goesOn =>
    cases goesOn
    exact ends_note recording _ (.ofObstacle _ _)
  | concluded descends operands concludes goesOn =>
    cases goesOn
    exact ends_note recording _ _

/-! ## Obstacles and free names -/

/-- No operation refuses to nest. -/
theorem operate_ne_tooDeep (op : BinaryOp) (left right : Float) (ceiling : Nat) :
    operate op left right ≠ .error (.tooDeep ceiling) := by
  cases op <;> simp only [operate, finite, raise] <;> repeat' split
  all_goals simp

/-- No function refuses to nest. -/
theorem apply_ne_tooDeep (function : Function) (argument : Float) (ceiling : Nat) :
    function.apply argument ≠ .error (.tooDeep ceiling) := by
  cases function <;> simp only [Function.apply] <;> repeat' split
  all_goals simp

/-- A conclusion with the operation of an obstacle says the message of one that was met at the
numbers of operands. -/
def Tells (conclusion : Conclusion) : Prop :=
  conclusion.operation = .error ∨ conclusion.operation = .warning →
    ∃ expression obstacle, conclusion = .ofObstacle expression obstacle
      ∧ ∀ ceiling, obstacle ≠ .tooDeep ceiling

/-- An operator between operands meets an obstacle at their numbers. -/
theorem tells_combine (op : BinaryOp) (left right : Value) : Tells (combine op left right) := by
  unfold combine
  dsimp only
  split
  · split
    · split <;> simp [Tells]
    · rename_i obstacle fails
      intro _
      refine ⟨_, obstacle, rfl, ?_⟩
      rintro ceiling rfl
      exact operate_ne_tooDeep _ _ _ _ fails
  · simp [Tells]

/-- A function meets an obstacle at the number of its argument. -/
theorem tells_applyFunction (name : String) (argument : Value) :
    Tells (applyFunction name argument) := by
  unfold applyFunction
  dsimp only
  split
  · simp [Tells]
  · split
    · simp [Tells]
    · split
      · split
        · simp [Tells]
        · intro _
          exact ⟨_, _, rfl, by simp⟩
      · rename_i obstacle fails
        intro _
        refine ⟨_, obstacle, rfl, ?_⟩
        rintro ceiling rfl
        exact apply_ne_tooDeep _ _ _ fails

/-- What is drawn from the values of operands tells no more of obstacles than was met. -/
theorem Concludes.tells {expr : Expr} (concludes : Concludes scope expr values conclusion) :
    Tells conclusion := by
  cases concludes with
  | call => exact tells_applyFunction _ _
  | binary => exact tells_combine _ _ _
  | symbol =>
    unfold lookUp
    split <;> simp [Tells]
  | unary =>
    unfold applySign
    dsimp only
    split <;> simp [Tells]
  | definite =>
    unfold integratedBetween
    dsimp only
    split <;> simp [Tells]
  | number => simp [Tells, literal]
  | paren => simp [Tells, enclose]
  | derivative => simp [Tells, differentiated]
  | indefinite => simp [Tells, integrated]

/-- A step with the operation of an obstacle has the message of the obstacle as its result. A
refusal to nest is among them only if there is a reason. -/
theorem Drawn.of_obstacle {deep : Prop} (drawn : Drawn scope deep conclusion)
    (tells : conclusion.operation = .error ∨ conclusion.operation = .warning) :
    ∃ expression obstacle, conclusion = .ofObstacle expression obstacle
      ∧ ∀ ceiling, obstacle = .tooDeep ceiling → deep := by
  cases drawn with
  | recalled key value => simp [Evaluation.recalled] at tells
  | refused key tooDeep => exact ⟨key, _, rfl, fun _ _ => tooDeep⟩
  | concluded concludes =>
    obtain ⟨expression, obstacle, rfl, shallow⟩ := concludes.tells tells
    exact ⟨expression, obstacle, rfl, fun ceiling same => absurd same (shallow ceiling)⟩

/-- No message of an obstacle is concluded about a free name. -/
theorem ofObstacle_ne_freeName (expression : String) (obstacle : Obstacle) :
    (Conclusion.ofObstacle expression obstacle).operation ≠ .freeName := by
  unfold Conclusion.ofObstacle
  dsimp only
  split <;> simp

/-- A free name is concluded about a name only, and it is the value. -/
theorem Concludes.of_freeName {expr : Expr} (concludes : Concludes scope expr values conclusion)
    (free : conclusion.operation = .freeName) :
    scope.bindings.get? conclusion.expression = none
      ∧ conclusion.value = .symbolic conclusion.expression := by
  cases concludes with
  | symbol =>
    unfold lookUp at free ⊢
    split at free
    · simp at free
    · rename_i unbound
      simp [unbound]
  | call =>
    unfold applyFunction at free
    dsimp only at free
    repeat' split at free
    all_goals first | exact absurd free (ofObstacle_ne_freeName _ _) | simp at free
  | binary =>
    unfold combine at free
    dsimp only at free
    repeat' split at free
    all_goals first | exact absurd free (ofObstacle_ne_freeName _ _) | simp at free
  | unary =>
    unfold applySign at free
    dsimp only at free
    split at free <;> simp at free
  | definite =>
    unfold integratedBetween at free
    dsimp only at free
    split at free <;> simp at free
  | number => simp [literal] at free
  | paren => simp [enclose] at free
  | derivative => simp [differentiated] at free
  | indefinite => simp [integrated] at free

/-- A step of a free name has the name as its result, and the name is not bound. -/
theorem Drawn.of_freeName {deep : Prop} (drawn : Drawn scope deep conclusion)
    (free : conclusion.operation = .freeName) :
    scope.bindings.get? conclusion.expression = none
      ∧ conclusion.value = .symbolic conclusion.expression := by
  cases drawn with
  | recalled key value => simp [Evaluation.recalled] at free
  | refused key tooDeep => exact absurd free (ofObstacle_ne_freeName _ _)
  | concluded concludes => exact concludes.of_freeName free

end Evaluation

end Workings
