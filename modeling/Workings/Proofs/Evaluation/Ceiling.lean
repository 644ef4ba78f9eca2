import Workings.Proofs.Evaluation.Trace
import Workings.Proofs.Expr.LiteralForms

/-!
# The ceiling of the readers and of the evaluator

Readers and evaluator refuse what nests too deeply, and both count parentheses, calls, signs,
derivatives and integrals. Evaluation goes no deeper into a tree of the grammar than the text nests.
But a text that is one derivative or one integral from end to end is read in pieces, each of them
with the whole ceiling to itself, while evaluation takes a level for the derivative or the integral
and evaluates bounds below it.
-/

namespace Workings

/-- A step that refuses to nest more levels than the ceiling. -/
def Step.Refuses (step : Step) (ceiling : Nat) : Prop :=
  step.operation = .error ∧ step.result = (Obstacle.tooDeep ceiling).message

/-- A text that begins with a text. -/
theorem toList_of_begins {beginning chars : List Char} {rest : String}
    (same : (String.ofList beginning ++ rest).toList = chars) :
    beginning ++ rest.toList = chars := by
  simpa using same

/-- No other obstacle has the message of a refusal to nest. -/
theorem Obstacle.tooDeep_of_message {obstacle : Obstacle} {ceiling : Nat}
    (same : obstacle.message = (Obstacle.tooDeep ceiling).message) :
    ∃ other, obstacle = .tooDeep other := by
  have chars := congrArg String.toList same
  unfold message at chars
  simp only [String.append_assoc] at chars
  have refusal := toList_of_begins chars.symm
  -- The messages differ where each names its obstacle, behind the word that most of them share.
  cases obstacle with
  | tooDeep other => exact ⟨other, rfl⟩
  | functionOverflow function argument =>
    have named := toList_of_begins refusal.symm
    simp only [List.cons_append, List.nil_append, List.cons.injEq, true_and] at named
    cases function <;> exact absurd (toList_of_begins named) (by simp)
  | _ => exact absurd (toList_of_begins refusal.symm) (by simp)

namespace Expr

open Evaluation

/-- Evaluation goes no deeper into a tree than the tree nests. -/
theorem descent_le_levels (expr : Expr) : expr.descent ≤ expr.levels := by
  induction expr with
  | indefinite wrt body span => cases body <;> simp [descent, levels]
  | number | symbol => exact Nat.le_refl 0
  | _ =>
    simp only [descent, levels]
    omega

/-- An evaluation that goes no deeper than the ceiling refuses nothing. -/
theorem not_refuses_of_descent_le {expr : Expr} {bindings : Bindings} {ceiling : Nat}
    {value : Value} {trace : List Step} (shallow : expr.descent ≤ ceiling)
    (worksOut : expr.workOut bindings ceiling = .ok (value, trace)) :
    ∀ step ∈ trace, ¬ step.Refuses ceiling := by
  obtain ⟨after, rfl, course⟩ := course_of_workOut worksOut
  rintro step member ⟨isError, isRefusal⟩
  obtain ⟨conclusion, number, rfl, drawn⟩ :=
    (course.drawn (Array.mem_toList_iff.1 member)).resolve_left (by simp [Progress.initial])
  obtain ⟨expression, obstacle, rfl, deep⟩ := drawn.of_obstacle (.inl isError)
  obtain ⟨other, rfl⟩ := Obstacle.tooDeep_of_message isRefusal
  obtain ⟨_, isExpr, deeper⟩ := deep other rfl
  obtain rfl := List.mem_singleton.1 isExpr
  exact absurd shallow (Nat.not_le_of_lt deeper)

/-- Where nothing may nest, what nests is refused before anything in it is evaluated. -/
theorem workOut_zero_of_nests {expr : Expr} (nests : expr.nests) (bindings : Bindings) :
    let refusal := Conclusion.ofObstacle expr.text (.tooDeep 0)
    expr.workOut bindings 0 = .ok (refusal.value, [refusal.step 1]) := by
  cases expr with
  | number | symbol | binary => contradiction
  | _ => rfl

/-! ## What was read -/

/-- A tree that the grammar read is evaluated without a refusal under the same ceiling. -/
theorem descent_le_of_readRegion {position : Nat} {chars : List Char} {ceiling : Nat} {expr : Expr}
    (reads : readRegion position chars ceiling = .ok expr) : expr.descent ≤ ceiling := by
  obtain ⟨-, -, -, within⟩ := derives_of_readRegion reads
  exact Nat.le_trans expr.descent_le_levels within.levels_le

/-- The ceiling leaves a level for a derivative or an integral at the top of a tree, and evaluation
goes less deep than the ceiling into bounds. -/
def HasRoom (ceiling : Nat) : Expr → Prop
  | .derivative .. | .indefinite .. => 0 < ceiling
  | .definite _ lower upper _ _ => lower.descent < ceiling ∧ upper.descent < ceiling
  | _ => True

/-- Where the grammar reads a tree, it leaves room for it. -/
theorem hasRoom_of_readRegion {position : Nat} {chars : List Char} {ceiling : Nat} {expr : Expr}
    (reads : readRegion position chars ceiling = .ok expr) : expr.HasRoom ceiling := by
  have descent_le := descent_le_of_readRegion reads
  cases expr with
  | derivative | indefinite => exact descent_le
  | definite => exact Nat.max_lt.1 descent_le
  | _ => trivial

/-- Every tree that is read is evaluated no deeper than the ceiling of the readers, if there is room
at its top. The body of an integral with bounds needs none: it is evaluated from the top, as it was
read. -/
theorem descent_le_of_read {source : String} {depth : Nat} {expr : Expr}
    (reads : read source depth = .ok expr) (room : expr.HasRoom depth) :
    expr.descent ≤ depth
      ∧ ∀ wrt lower upper body span, expr = .definite wrt lower upper body span →
          body.descent ≤ depth := by
  simp only [read] at reads
  split at reads
  · next isDerivative =>
    obtain ⟨wrt, text, body, span, -, -, rfl⟩ :=
      of_readDerivative (isDerivative.trans (congrArg some reads))
    exact ⟨room, by simp⟩
  · split at reads
    · next isIntegral =>
      obtain ⟨letter, -, ⟨text, body, span, -, -, rfl⟩ | ⟨lowerText, upperText, bodyText, lower,
        upper, body, span, -, -, ⟨position, readsBody⟩, rfl⟩⟩ :=
        of_readIntegral (isIntegral.trans (congrArg some reads))
      · exact ⟨room, by simp⟩
      · refine ⟨Nat.max_lt.2 room, ?_⟩
        rintro _ _ _ _ _ ⟨⟩
        exact descent_le_of_readRegion readsBody
    · refine ⟨descent_le_of_readRegion reads, ?_⟩
      rintro wrt lower upper body span rfl
      obtain ⟨-, -, -, within⟩ := derives_of_readRegion reads
      have body_lt := within.levels_le
      rw [levels] at body_lt
      exact Nat.le_trans body.descent_le_levels (by omega)

/-- What was read under a ceiling is never refused by an evaluation under the same ceiling, if there
is room at its top; and neither are the samples of an integral with bounds. -/
theorem not_refuses_of_read {source : String} {depth : Nat} {expr : Expr}
    (reads : read source depth = .ok expr) (room : expr.HasRoom depth) (bindings : Bindings) :
    (∀ value trace, expr.workOut bindings depth = .ok (value, trace) →
        ∀ step ∈ trace, ¬ step.Refuses depth)
      ∧ ∀ wrt lower upper body span, expr = .definite wrt lower upper body span →
          ∀ place value trace, body.workOut (bindings.set wrt place) depth = .ok (value, trace) →
            ∀ step ∈ trace, ¬ step.Refuses depth := by
  obtain ⟨shallow, bodyShallow⟩ := descent_le_of_read reads room
  constructor
  · intro value trace worksOut
    exact not_refuses_of_descent_le shallow worksOut
  · intro wrt lower upper body span same place value trace worksOut
    exact not_refuses_of_descent_le (bodyShallow wrt lower upper body span same) worksOut

/-- An integral with a bound between parentheses, where a level is left below its own. -/
theorem not_refuses_of_read_bounds :
    ∃ expr value trace, read "∫_(a)^b x dx" 2 = .ok expr ∧ expr.HasRoom 2
      ∧ expr.workOut Bindings.empty 2 = .ok (value, trace) ∧ ∀ step ∈ trace, ¬ step.Refuses 2 := by
  have reads : read "∫_(a)^b x dx" 2 = .ok
      (.definite "x" (.paren (.symbol "a" ⟨5, 6⟩) ⟨4, 7⟩) (.symbol "b" ⟨8, 9⟩)
        (.symbol "x" ⟨10, 11⟩) ⟨0, 14⟩) := by
    rfl
  have room : HasRoom 2 (.definite "x" (.paren (.symbol "a" ⟨5, 6⟩) ⟨4, 7⟩) (.symbol "b" ⟨8, 9⟩)
      (.symbol "x" ⟨10, 11⟩) ⟨0, 14⟩) := by
    simp [HasRoom, descent]
  have fits := (not_refuses_of_read reads room Bindings.empty).1
  exact ⟨_, _, _, reads, room, rfl, fits _ _ rfl⟩

/-- The parentheses of a bound nest no deeper than the ceiling where they are read, but evaluation
has taken the only level for the integral. -/
theorem refuses_bound_in_parentheses :
    ∃ expr value trace, read "∫_(a)^b x dx" 1 = .ok expr
      ∧ expr.workOut Bindings.empty 1 = .ok (value, trace) ∧ ∃ step ∈ trace, step.Refuses 1 := by
  have reads : read "∫_(a)^b x dx" 1 = .ok
      (.definite "x" (.paren (.symbol "a" ⟨5, 6⟩) ⟨4, 7⟩) (.symbol "b" ⟨8, 9⟩)
        (.symbol "x" ⟨10, 11⟩) ⟨0, 14⟩) := by
    rfl
  exact ⟨_, _, _, reads, rfl, _, .head _, rfl, rfl⟩

end Expr

end Workings
