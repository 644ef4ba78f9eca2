import Workings.Proofs.Evaluation.Trace
import Workings.Proofs.Expr.Readable
import Workings.Proofs.Number.Finite

/-!
# Numbers stay finite

Operators, functions and the texts of rules are worth finite numbers or texts, whatever they are
applied to. Everything else hands on the numbers of its operands, but for the area of an integral
between bounds: its samples are finite, and their sum need not be. So the numbers of an evaluation
are finite if and only if its areas are.
-/

namespace Workings

/-- A value that is a finite number or a text. -/
def Value.Finite (value : Value) : Prop :=
  ∀ number, value = .number number → number.isFinite

/-- A step whose result is the text of a finite number. -/
structure Step.HasFiniteResult (step : Step) : Prop where
  finite : ∃ number : Float, number.isFinite ∧ step.result = Number.text number
  never : step.result ∉ Number.nonFiniteTexts

/-- The operations whose results are checked wherever they are numbers. -/
def Operation.IsChecked : Operation → Prop
  | .arithmetic _ | .application _ | .derivative | .integral => True
  | _ => False

/-- All numbers that names are bound to are finite. -/
def Bindings.Finite (bindings : Bindings) : Prop :=
  ∀ name number, bindings.get? name = some number → number.isFinite

/-- The numbers of the operands of an expression are numbers of it. -/
theorem Expr.Finite.operand {expr operand : Expr} (finite : expr.Finite)
    (member : operand ∈ expr.operands) : operand.Finite := by
  intro number inside
  refine finite number ?_
  cases expr with
  | number | symbol | derivative | indefinite => contradiction
  | paren | call | unary => exact List.mem_singleton.1 member ▸ inside
  | binary op left right span =>
    obtain rfl | rfl : operand = left ∨ operand = right := by simpa [operands] using member
    · exact List.mem_append_left _ inside
    · exact List.mem_append_right _ inside
  | definite wrt lower upper body span =>
    obtain rfl | rfl : operand = lower ∨ operand = upper := by simpa [operands] using member
    · exact List.mem_append_left _ (List.mem_append_left _ inside)
    · exact List.mem_append_left _ (List.mem_append_right _ inside)

namespace Evaluation

/-! ## Checked results -/

/-- Texts are no numbers that could leave the range. -/
theorem finite_symbolic (text : String) : (Value.symbolic text).Finite := by
  rintro number ⟨⟩

/-- A finite number is finite as a value. -/
theorem finite_number {number : Float} (finite : number.isFinite) :
    (Value.number number).Finite := by
  rintro _ ⟨⟩
  exact finite

/-- What an operator is worth is a finite number or a text, whatever it is applied to. -/
theorem finite_operate {op : BinaryOp} {left right : Float} {value : Value}
    (operates : operate op left right = .ok value) : value.Finite := by
  have checked {result : Float} (finishes : finite left op right result = .ok value) :
      value.Finite := by
    unfold finite at finishes
    split at finishes
    · rename_i isFinite
      obtain rfl := Except.ok.inj finishes
      exact finite_number isFinite
    · contradiction
  cases op with
  | plus | minus | times => exact checked operates
  | dividedBy | modulo =>
    simp only [operate] at operates
    split at operates
    · contradiction
    · exact checked operates
  | power =>
    simp only [operate, raise] at operates
    split_ifs at operates with broken large small zero overflows warns
    · obtain rfl := Except.ok.inj operates
      exact finite_symbolic _
    · obtain rfl := Except.ok.inj operates
      exact finite_number (not_not.1 (not_or.1 overflows).1)

/-- An operator between two values is worth a finite number or a text. -/
theorem finite_combine (op : BinaryOp) (left right : Value) :
    (combine op left right).value.Finite := by
  unfold combine
  dsimp only
  split
  · split
    · rename_i operates
      exact finite_operate operates
    · exact finite_symbolic _
  · exact finite_symbolic _

/-- A function of a value is worth a finite number or a text. -/
theorem finite_applyFunction (name : String) (argument : Value) :
    (applyFunction name argument).value.Finite := by
  unfold applyFunction
  dsimp only
  split
  · exact finite_symbolic _
  · split
    · exact finite_symbolic _
    · split
      · split
        · rename_i isFinite
          exact finite_number isFinite
        · exact finite_symbolic _
      · exact finite_symbolic _

/-- The text of a rule is worth a finite number or itself. -/
theorem finite_ofText (source : String) : (Value.ofText source).Finite := by
  unfold Value.ofText
  split
  · split
    · rename_i isFinite
      exact finite_number isFinite
    · exact finite_symbolic _
  · exact finite_symbolic _

/-- A derivative is worth a finite number or a text. -/
theorem finite_differentiated (wrt derived : String) (body : Expr) :
    (differentiated wrt body derived).value.Finite := by
  simp only [differentiated]
  exact finite_ofText derived

/-- An integral without bounds is worth a finite number or a text. -/
theorem finite_integrated (wrt antiderivative : String) (body : Expr) :
    (integrated wrt body antiderivative).value.Finite := by
  simp only [integrated]
  exact finite_ofText antiderivative

/-- A sign in front of a finite number or a text leaves it one. -/
theorem finite_applySign (op : UnaryOp) {operand : Value} (finite : operand.Finite) :
    (applySign op operand).value.Finite := by
  unfold applySign
  dsimp only
  split
  · exact finite_number (Number.isFinite_neg (finite _ rfl))
  · exact finite_number (finite _ rfl)
  · exact finite_symbolic _

/-- A name is worth a finite number or itself if it is bound to none but finite numbers. -/
theorem finite_lookUp {bindings : Bindings} (finite : bindings.Finite) (name : String) :
    (lookUp bindings name).value.Finite := by
  unfold lookUp
  split
  · rename_i number bound
    exact finite_number (finite name number bound)
  · exact finite_symbolic _

variable {scope : Scope} {levels : Nat} {expr : Expr} {exprs : List Expr}
  {before middle after : Progress} {values : List Value} {conclusion : Conclusion}

/-- What is concluded by a checked operation is a finite number or a text, whatever the operands
are. -/
theorem Concludes.finite_of_isChecked (concludes : Concludes scope expr values conclusion)
    (checked : conclusion.operation.IsChecked) : conclusion.value.Finite := by
  cases concludes with
  | call => exact finite_applyFunction _ _
  | binary => exact finite_combine _ _ _
  | derivative => exact finite_differentiated _ _ _
  | indefinite => exact finite_integrated _ _ _
  | number => exact absurd checked id
  | paren => exact absurd checked id
  | symbol =>
    unfold lookUp at checked
    split at checked <;> exact absurd checked id
  | unary =>
    unfold applySign at checked
    dsimp only at checked
    split at checked <;> exact absurd checked id
  | definite =>
    unfold integratedBetween at checked ⊢
    dsimp only at checked ⊢
    split at checked
    · exact absurd checked id
    · exact finite_symbolic _

/-- What is concluded from finite numbers and texts is one, if it is no area. -/
theorem Concludes.finite (concludes : Concludes scope expr values conclusion)
    (literals : expr.Finite) (bound : scope.bindings.Finite)
    (finite : ∀ value ∈ values, value.Finite)
    (area : conclusion.operation = .definiteIntegral → conclusion.value.Finite) :
    conclusion.value.Finite := by
  cases concludes with
  | @number value _ => exact finite_number (literals value (List.mem_singleton_self _))
  | symbol => exact finite_lookUp bound _
  | paren => exact finite _ (List.mem_singleton_self _)
  | call => exact finite_applyFunction _ _
  | unary => exact finite_applySign _ (finite _ (List.mem_singleton_self _))
  | binary => exact finite_combine _ _ _
  | derivative => exact finite_differentiated _ _ _
  | indefinite => exact finite_integrated _ _ _
  | definite =>
    unfold integratedBetween at area ⊢
    dsimp only at area ⊢
    split
    · exact area rfl
    · exact finite_symbolic _

/-- An obstacle is an error or a warning. -/
theorem operation_ofObstacle (expression : String) (obstacle : Obstacle) :
    (Conclusion.ofObstacle expression obstacle).operation = .error
      ∨ (Conclusion.ofObstacle expression obstacle).operation = .warning := by
  unfold Conclusion.ofObstacle
  dsimp only
  split
  · exact .inr rfl
  · exact .inl rfl

/-- No message of an obstacle is concluded as an area. -/
theorem ofObstacle_ne_definiteIntegral (expression : String) (obstacle : Obstacle) :
    (Conclusion.ofObstacle expression obstacle).operation ≠ .definiteIntegral := by
  rcases operation_ofObstacle expression obstacle with same | same <;> simp [same]

/-- Nothing but an area is concluded as one, and it is a number. -/
theorem Concludes.isNumeric_of_area (concludes : Concludes scope expr values conclusion)
    (area : conclusion.operation = .definiteIntegral) : conclusion.value.isNumeric := by
  cases concludes with
  | definite =>
    unfold integratedBetween at area ⊢
    dsimp only at area ⊢
    split at area
    · rfl
    · contradiction
  | number | paren | derivative | indefinite => contradiction
  | symbol =>
    unfold lookUp at area
    split at area <;> contradiction
  | unary =>
    unfold applySign at area
    dsimp only at area
    split at area <;> contradiction
  | call =>
    unfold applyFunction at area
    dsimp only at area
    repeat' split at area
    all_goals first | exact absurd area (ofObstacle_ne_definiteIntegral _ _) | contradiction
  | binary =>
    unfold combine at area
    dsimp only at area
    repeat' split at area
    all_goals first | exact absurd area (ofObstacle_ne_definiteIntegral _ _) | contradiction

/-- Steps of checked operations have finite results where these are numbers, and areas are
numbers. -/
theorem Drawn.of_operation {deep : Prop} (drawn : Drawn scope deep conclusion) :
    (conclusion.operation.IsChecked → conclusion.value.Finite)
      ∧ (conclusion.operation = .definiteIntegral → conclusion.value.isNumeric) := by
  cases drawn with
  | recalled key value => exact ⟨fun checked => absurd checked id, nofun⟩
  | refused key tooDeep => exact ⟨fun checked => absurd checked id, nofun⟩
  | concluded concludes => exact ⟨concludes.finite_of_isChecked, concludes.isNumeric_of_area⟩

/-! ## Along the course -/

/-- The step of a finite number has a finite result. -/
theorem hasFiniteResult_step (finite : conclusion.value.Finite)
    (numeric : conclusion.value.isNumeric) (number : Nat) :
    (conclusion.step number).HasFiniteResult := by
  cases same : conclusion.value with
  | symbolic text =>
    rw [same] at numeric
    contradiction
  | number result =>
    have result_eq : (conclusion.step number).result = Number.text result := by
      simp [Conclusion.step, same, Value.text]
    have isFinite := finite result same
    refine ⟨⟨result, isFinite, result_eq⟩, ?_⟩
    rw [result_eq]
    exact fun member => Number.text_mem_nonFiniteTexts_iff.1 member isFinite

/-- A value is finite if its step has a finite result. -/
theorem finite_of_step {number : Nat} (step : (conclusion.step number).HasFiniteResult) :
    conclusion.value.Finite := by
  intro result same
  have result_eq : (conclusion.step number).result = Number.text result := by
    simp [Conclusion.step, same, Value.text]
  have never := step.never
  rw [result_eq, Number.text_mem_nonFiniteTexts_iff, not_not] at never
  exact never

/-- An evaluation that has found out about finite numbers and texts only. -/
structure FiniteSoFar (progress : Progress) : Prop where
  memo : ∀ entry ∈ progress.memo, entry.2.Finite
  trace : ∀ step ∈ progress.trace, step.isNumeric → step.HasFiniteResult

/-- A conclusion about a finite number or a text can be added to the trace. -/
theorem FiniteSoFar.note (soFar : FiniteSoFar before) (finite : conclusion.value.Finite) :
    FiniteSoFar (before.note scope conclusion) where
  memo := by
    unfold Progress.note
    split <;> exact soFar.memo
  trace := by
    intro step member numeric
    rcases of_mem_note member with earlier | rfl
    · exact soFar.trace step earlier numeric
    · exact hasFiniteResult_step finite numeric _

/-- A finite number or a text can be remembered. -/
theorem FiniteSoFar.remember (soFar : FiniteSoFar before) {value : Value} (finite : value.Finite)
    (key : String) : FiniteSoFar (before.remember key value) where
  memo := List.forall_mem_cons.2 ⟨finite, soFar.memo⟩
  trace := soFar.trace

/-- A value that is remembered is a finite number or a text. -/
theorem finite_of_lookup (soFar : FiniteSoFar before) {key : String} {value : Value}
    (remembered : before.memo.lookup key = some value) : value.Finite := by
  obtain ⟨front, back, memo_eq, -⟩ := List.lookup_eq_some_iff.1 remembered
  exact soFar.memo (key, value) (by simp [memo_eq])

/-- A course of expressions with finite numbers finds out about finite numbers and texts only, if
the areas in its trace are finite. -/
theorem Course.finiteSoFar (course : Course scope levels exprs before values after)
    (recording : scope.recording) (bound : scope.bindings.Finite)
    (literals : ∀ expr ∈ exprs, expr.Finite) (soFar : FiniteSoFar before)
    (areas : ∀ step ∈ after.trace, step.operation = .definiteIntegral → step.HasFiniteResult) :
    FiniteSoFar after ∧ ∀ value ∈ values, value.Finite := by
  induction course with
  | done => exact ⟨soFar, by simp⟩
  | recalled remembered goesOn hypothesis =>
    have finite := finite_of_lookup soFar remembered
    obtain ⟨afterSoFar, others⟩ :=
      hypothesis (List.forall_mem_cons.1 literals).2 (soFar.note finite) areas
    exact ⟨afterSoFar, List.forall_mem_cons.2 ⟨finite, others⟩⟩
  | refused nests goesOn hypothesis =>
    have finite := finite_symbolic (Obstacle.tooDeep scope.ceiling).message
    obtain ⟨afterSoFar, others⟩ :=
      hypothesis (List.forall_mem_cons.1 literals).2 (soFar.note finite) areas
    exact ⟨afterSoFar, List.forall_mem_cons.2 ⟨finite, others⟩⟩
  | concluded descends operands concludes goesOn operandHypothesis hypothesis =>
    obtain ⟨literal, otherLiterals⟩ := List.forall_mem_cons.1 literals
    obtain ⟨middleSoFar, operandsFinite⟩ := operandHypothesis (fun operand member =>
      literal.operand member) soFar fun step member isArea =>
        areas step (goesOn.keeps (mem_note_of_mem member)) isArea
    -- An area is noted right here, so its step is one of those that are known to be finite.
    have finite := concludes.finite literal bound operandsFinite fun isArea =>
      finite_of_step (areas _ (goesOn.keeps (step_mem_note recording _ _)) isArea)
    obtain ⟨afterSoFar, others⟩ :=
      hypothesis otherLiterals ((middleSoFar.note finite).remember finite _) areas
    exact ⟨afterSoFar, List.forall_mem_cons.2 ⟨finite, others⟩⟩

/-! ## Areas under level curves -/

section

variable {m : Type → Type} [Monad m] [LawfulMonad m] {height : Float}

/-- The sum of the samples of a curve that has the same height everywhere. -/
def levelSum (height : Float) : Float :=
  (List.range' 1 (intervals - 1)).foldl (fun sum index => sum + weight index * height)
    (height + height)

/-- The area under a curve that has the same height everywhere. -/
def levelArea (height lower upper : Float) : Float :=
  levelSum height * ((upper - lower) / Float.ofNat intervals) / 3

/-- Where all samples are the same, their sum is that of a level curve. -/
theorem simpson_level (height lower upper : Float) :
    simpson (fun _ => (pure height : OptionT m Float)) lower upper
      = pure (levelArea height lower upper) := by
  simp only [simpson, pure_bind, List.foldlM_pure]
  rfl

/-- Where all samples are the same finite number, there is an area between two numbers. -/
theorem areaBetween_level (finite : height.isFinite) (lower upper : Value) :
    areaBetween (fun _ => (pure (.number height) : m Value)) lower upper
      = pure (do return levelArea height (← lower.number?) (← upper.number?)) := by
  have kept : finiteNumber? (.number height) = some height := by
    simp [finiteNumber?, Value.number?, Option.filter, finite]
  have samples : OptionT.mk (finiteNumber? <$> (pure (.number height) : m Value))
      = pure height := by
    rw [map_pure, kept]
    rfl
  unfold areaBetween
  simp only [samples, simpson_level]
  cases lower <;> cases upper <;> rfl

/-- A sum that no sample changes any more stays as it is. -/
theorem levelSum_eq {sum : Float} (ends : height + height = sum) (odd : sum + 4 * height = sum)
    (even : sum + 2 * height = sum) : levelSum height = sum := by
  have absorbs (index : Nat) : sum + weight index * height = sum := by
    unfold weight
    split
    · exact odd
    · exact even
  rw [levelSum, ends]
  generalize List.range' 1 (intervals - 1) = places
  induction places with
  | nil => rfl
  | cons index places hypothesis => rwa [List.foldl_cons, absorbs]

/-- The samples of a curve of height one are summed up by their weights. -/
theorem levelSum_one : levelSum 1 = (List.range' 1 (intervals - 1)).foldl
    (fun sum index => sum + if index % 2 = 1 then 4 else 2) 2 := by
  have weight_mul_one (index : Nat) : weight index * 1 = if index % 2 = 1 then 4 else 2 := by
    unfold weight
    split <;> decide +kernel
  have ends : (1 : Float) + 1 = 2 := by decide +kernel
  simp only [levelSum, weight_mul_one, ends]

end

end Evaluation

namespace Expr

open Evaluation

/-- The evaluation of an expression whose numbers are finite, where names are bound to finite
numbers only, finds out about finite numbers and texts if and only if every area in its trace is
finite. What operators, functions and the texts of rules are worth is finite or a text in any
case. -/
theorem workOut_finite_iff {expr : Expr} {bindings : Bindings} {ceiling : Nat} {value : Value}
    {trace : List Step} (literals : ∀ literal ∈ expr.literals, literal.isFinite)
    (bound : ∀ name number, bindings.get? name = some number → number.isFinite)
    (worksOut : expr.workOut bindings ceiling = .ok (value, trace)) :
    (∀ step ∈ trace, step.isNumeric → step.operation.IsChecked → step.HasFiniteResult)
    ∧ ((∀ number, value = .number number → number.isFinite)
          ∧ (∀ step ∈ trace, step.isNumeric → step.HasFiniteResult)
        ↔ ∀ step ∈ trace, step.operation = .definiteIntegral → step.HasFiniteResult) := by
  obtain ⟨after, rfl, course⟩ := course_of_workOut worksOut
  simp only [Array.mem_toList_iff]
  have drawnStep (step : Step) (member : step ∈ after.trace) : ∃ conclusion number,
      step = conclusion.step number ∧ Drawn ⟨bindings, ceiling, true⟩ _ conclusion :=
    (course.drawn member).resolve_left (by simp [Progress.initial])
  have initial : FiniteSoFar .initial := ⟨by simp [Progress.initial], by simp [Progress.initial]⟩
  refine ⟨fun step member numeric checked => ?_, fun finite step member area => ?_, fun areas => ?_⟩
  · obtain ⟨conclusion, number, rfl, drawn⟩ := drawnStep step member
    exact hasFiniteResult_step (drawn.of_operation.1 checked) numeric number
  · obtain ⟨conclusion, number, rfl, drawn⟩ := drawnStep step member
    exact finite.2 _ member (drawn.of_operation.2 area)
  · obtain ⟨soFar, finite⟩ :=
      course.finiteSoFar rfl bound (List.forall_mem_singleton.2 literals) initial areas
    exact ⟨finite value (List.mem_singleton_self _), soFar.trace⟩

/-- The integral of a name over an interval of length one. -/
def nameArea : Expr :=
  .definite "x" (.number 0 ⟨4, 5⟩) (.number 1 ⟨6, 7⟩) (.symbol "a" ⟨8, 9⟩) ⟨0, 12⟩

/-- Its numbers are finite. -/
theorem finite_nameArea : ∀ literal ∈ nameArea.literals, literal.isFinite := by
  simp only [nameArea, literals, List.append_nil, List.singleton_append, List.forall_mem_cons]
  exact ⟨by decide +kernel, by decide +kernel, List.forall_mem_nil _⟩

/-- The name of the integral, bound to a number. -/
def bindName (number : Float) : Bindings :=
  Bindings.empty.set "a" number

/-- It is bound to a finite number only if that number is finite. -/
theorem finite_bindName {number : Float} (finite : number.isFinite) : (bindName number).Finite := by
  intro name bound found
  rw [bindName, Bindings.get?_set] at found
  split at found
  · exact Option.some.inj found ▸ finite
  · contradiction

/-- The integral of a name that is bound to a finite number is the area under a level curve. -/
theorem workOut_nameArea {height : Float} (finite : height.isFinite) :
    let area := integratedBetween "x" "a" (.number 0) (.number 1) (some (levelArea height 0 1))
    nameArea.workOut (bindName height) 256
      = .ok (area.value, [(literal 0).step 1, (literal 1).step 2, area.step 3]) := by
  let scope : Scope := ⟨bindName height, 256, true⟩
  have samples : (fun place => alone ((symbol "a" ⟨8, 9⟩).evaluate (scope.inside "x" place) 256))
      = fun _ => pure (.number height) :=
    funext fun _ => rfl
  unfold workOut nameArea
  rw [evaluate]
  dsimp only
  rw [samples]
  simp only [areaBetween_level finite]
  rfl

/-- The area under one is one, so all numbers on the way to it are finite. -/
theorem workOut_finite_area_of_one :
    ∃ value trace, read "∫_0^1 a dx" 256 = .ok nameArea
      ∧ nameArea.workOut (bindName 1) 256 = .ok (value, trace)
      ∧ (∀ number, value = .number number → number.isFinite)
      ∧ ∀ step ∈ trace, step.isNumeric → step.HasFiniteResult := by
  have one : (1 : Float).isFinite := by decide +kernel
  have area : (levelArea 1 0 1).isFinite := by
    rw [levelArea, levelSum_one]
    decide +kernel
  have outcome := workOut_nameArea one
  refine ⟨_, _, rfl, outcome, ?_⟩
  refine (workOut_finite_iff finite_nameArea (finite_bindName one) outcome).2.2 ?_
  simp only [List.forall_mem_cons]
  exact ⟨nofun, nofun, fun _ => hasFiniteResult_step (finite_number area) rfl 3, nofun⟩

/-- The area under a great number is infinite, though the number and all samples are finite. -/
theorem workOut_infinite_area :
    ∃ area trace, read "∫_0^1 a dx" 256 = .ok nameArea
      ∧ (∀ literal ∈ nameArea.literals, literal.isFinite)
      ∧ (∀ name bound, (bindName 1.7e308).get? name = some bound → bound.isFinite)
      ∧ nameArea.workOut (bindName 1.7e308) 256 = .ok (.number area, trace)
      ∧ ¬ area.isFinite ∧ ∃ step ∈ trace, step.isNumeric ∧ step.result = "inf" := by
  have great : (1.7e308 : Float).isFinite := by decide +kernel
  have sum : levelSum 1.7e308 = 1 / 0 :=
    levelSum_eq (by decide +kernel) (by decide +kernel) (by decide +kernel)
  have area : levelArea 1.7e308 0 1 = 1 / 0 := by
    rw [levelArea, sum]
    decide +kernel
  have infinite : ¬ (levelArea 1.7e308 0 1).isFinite := by
    rw [area]
    decide +kernel
  let conclusion :=
    integratedBetween "x" "a" (.number 0) (.number 1) (some (levelArea 1.7e308 0 1))
  have written : (conclusion.step 3).result = "inf" := by
    unfold conclusion
    rw [area]
    decide +kernel
  refine ⟨_, _, rfl, finite_nameArea, finite_bindName great, workOut_nameArea great, infinite, ?_⟩
  exact ⟨conclusion.step 3, .tail _ (.tail _ (.head _)), rfl, written⟩

end Expr

end Workings
