import Workings.Proofs.Evaluation.Ceiling

/-!
# What more levels change

The ceiling of an evaluation only ever forbids. An evaluation under a higher ceiling ends as the one
under the lower ceiling does, unless that one refused something; and it refuses nothing if no path
of the expression nests more often than the ceiling allows. Evaluators that concur in this way are
put together of evaluators that do, so the evaluation of an expression is followed from its leaves
upwards. Samples are taken under the whole ceiling, and without a trace, so nothing of this holds
where an integral has bounds.
-/

namespace Workings

/-- The greatest number of expressions that nest on a path to a leaf. -/
def Expr.nesting : Expr → Nat
  | .number _ _ | .symbol _ _ => 0
  | .paren inner _ => inner.nesting + 1
  | .call _ _ argument _ _ => argument.nesting + 1
  | .unary _ operand _ => operand.nesting + 1
  | .binary _ left right _ => max left.nesting right.nesting
  | .derivative _ body _ => body.nesting + 1
  | .indefinite _ body _ => body.nesting + 1
  | .definite _ lower upper body _ => max (max lower.nesting upper.nesting) body.nesting + 1

/-- No integral of the expression has bounds, so nothing is sampled. -/
def Expr.Unsampled : Expr → Prop
  | .number _ _ | .symbol _ _ => True
  | .paren inner _ => inner.Unsampled
  | .call _ _ argument _ _ => argument.Unsampled
  | .unary _ operand _ => operand.Unsampled
  | .binary _ left right _ => left.Unsampled ∧ right.Unsampled
  | .derivative _ body _ => body.Unsampled
  | .indefinite _ body _ => body.Unsampled
  | .definite _ _ _ _ _ => False

/-- Evaluation goes no deeper into an expression than the expression nests. -/
theorem Expr.descent_le_nesting (expr : Expr) : expr.descent ≤ expr.nesting := by
  induction expr with
  | number | symbol => exact Nat.le_refl 0
  | _ =>
    simp only [descent, nesting]
    omega

/-! ## Evaluators that concur -/

/-- Of two evaluators, the second one ends as the first one does, unless the first one refuses
something. `deep` is the reason that there must be for a refusal. -/
structure Evaluator.Concurs {α : Type} (ceiling : Nat) (deep : Prop) (low high : Evaluator α) :
    Prop where
  /-- The first evaluator keeps the steps of the trace. -/
  keeps : ∀ {before after : Progress} {found : α}, low.run before = .ok (found, after) →
    ∀ step ∈ before.trace, step ∈ after.trace
  /-- Both end alike, or the first one refuses something and says so if it comes to an end. -/
  ends : ∀ before : Progress, high.run before = low.run before
    ∨ deep ∧ ∀ found after, low.run before = .ok (found, after) →
      ∃ step ∈ after.trace, step.Refuses ceiling

namespace Evaluator.Concurs

open Evaluation

variable {α β : Type} {ceiling : Nat} {deep : Prop} {bindings : Bindings} {higher : Nat}

/-- Evaluators concur for weaker reasons as well. -/
theorem imp {deeper : Prop} {low high : Evaluator α} (concurs : Concurs ceiling deep low high)
    (implies : deep → deeper) : Concurs ceiling deeper low high where
  keeps := concurs.keeps
  ends before := (concurs.ends before).imp_right (And.imp_left implies)

/-- Evaluators that go on alike concur if their parts do. -/
theorem bind {low high : Evaluator α} {next nextHigh : α → Evaluator β}
    (concurs : Concurs ceiling deep low high)
    (goOn : ∀ found, Concurs ceiling deep (next found) (nextHigh found)) :
    Concurs ceiling deep (low >>= next) (high >>= nextHigh) where
  keeps goesOn step member := by
    obtain ⟨first, between, firstEnds, secondEnds⟩ := of_run_bind goesOn
    exact (goOn first).keeps secondEnds step (concurs.keeps firstEnds step member)
  ends before := by
    rcases concurs.ends before with same | ⟨reason, refuses⟩
    · rw [StateT.run_bind, StateT.run_bind, same]
      cases low.run before with
      | error overflow => exact .inl rfl
      | ok pair => exact (goOn pair.1).ends pair.2
    · refine .inr ⟨reason, fun found after goesOn => ?_⟩
      obtain ⟨first, between, firstEnds, secondEnds⟩ := of_run_bind goesOn
      obtain ⟨step, member, isRefusal⟩ := refuses first between firstEnds
      exact ⟨step, (goOn first).keeps secondEnds step member, isRefusal⟩

/-- A conclusion is drawn alike under every ceiling. -/
theorem conclude (bindings : Bindings) (higher : Nat) (conclusion : Conclusion) :
    Concurs ceiling deep (conclude ⟨bindings, ceiling, true⟩ conclusion)
      (conclude ⟨bindings, higher, true⟩ conclusion) where
  keeps concluded step member := by
    obtain ⟨-, rfl⟩ := of_run_conclude concluded
    exact mem_note_of_mem member
  ends _ := .inl rfl

/-- A computation outside the progress concurs with itself. -/
theorem lift (computed : Except Overflow α) :
    Concurs ceiling deep (liftM computed : Evaluator α) (liftM computed) where
  keeps lifted step member := by
    obtain ⟨-, rfl⟩ := of_run_lift lifted
    exact member
  ends _ := .inl rfl

/-- What is computed alike is remembered alike. -/
theorem remember {low high : Evaluator Value} (concurs : Concurs ceiling deep low high)
    (key : String) :
    Concurs ceiling deep (remember key low) (remember key high) := by
  refine concurs.bind fun value => ⟨fun remembered step member => ?_, fun _ => .inl rfl⟩
  obtain ⟨-, rfl⟩ := Prod.mk.inj (Except.ok.inj remembered)
  exact member

/-- A refusal concurs with everything, for there is a step of it. -/
theorem refuse (bindings : Bindings) (reason : deep) (key : String) (high : Evaluator Value) :
    Concurs ceiling deep
      (Evaluation.conclude ⟨bindings, ceiling, true⟩ (.ofObstacle key (.tooDeep ceiling)))
      high where
  keeps concluded step member := by
    obtain ⟨-, rfl⟩ := of_run_conclude concluded
    exact mem_note_of_mem member
  ends before := by
    refine .inr ⟨reason, fun found after concluded => ?_⟩
    obtain ⟨-, rfl⟩ := of_run_conclude concluded
    exact ⟨_, step_mem_note rfl before _, rfl, rfl⟩

/-- Evaluators concur if from every progress they run like evaluators that do. -/
theorem of_run_eq {low high : Evaluator α}
    (alike : ∀ before : Progress, ∃ low' high', Concurs ceiling deep low' high'
      ∧ low.run before = low'.run before ∧ high.run before = high'.run before) :
    Concurs ceiling deep low high where
  keeps goesOn := by
    obtain ⟨low', high', concurs, low_eq, -⟩ := alike _
    exact concurs.keeps (low_eq.symm.trans goesOn)
  ends before := by
    obtain ⟨low', high', concurs, low_eq, high_eq⟩ := alike before
    rw [low_eq, high_eq]
    exact concurs.ends before

/-- Visits of an expression concur if it is computed alike where it is not refused. -/
theorem visit {expr : Expr} {levels more : Nat} {compute computeHigh : Nat → Evaluator Value}
    (le : levels ≤ more)
    (computes : ∀ below above, (levels = if expr.nests then below + 1 else below) →
      below ≤ above → Concurs ceiling (levels < expr.descent) (compute below) (computeHigh above)) :
    Concurs ceiling (levels < expr.descent) (visit ⟨bindings, ceiling, true⟩ levels expr compute)
      (visit ⟨bindings, higher, true⟩ more expr computeHigh) := by
  refine of_run_eq fun before => ?_
  cases remembered : before.memo.lookup expr.text with
  | some value =>
    refine ⟨_, _, conclude bindings higher (recalled expr.text value), ?_, ?_⟩ <;>
      simp [Evaluation.visit, remembered]
  | none =>
    by_cases nests : expr.nests
    · cases levels with
      | zero =>
        refine ⟨_, _, refuse bindings (Expr.descent_pos nests) expr.text _, ?_, rfl⟩
        simp [Evaluation.visit, remembered, nests]
      | succ below =>
        obtain ⟨above, rfl⟩ := Nat.exists_eq_add_of_le' (Nat.lt_of_lt_of_le below.succ_pos le)
        have concurs := computes below above (if_pos nests).symm (Nat.le_of_succ_le_succ le)
        refine ⟨_, _, concurs.remember expr.text, ?_, ?_⟩ <;>
          simp [Evaluation.visit, remembered, nests]
    · have concurs := computes levels more (if_neg nests).symm le
      refine ⟨_, _, concurs.remember expr.text, ?_, ?_⟩ <;>
        simp [Evaluation.visit, remembered, nests]

end Evaluator.Concurs

namespace Expr

open Evaluation
open Evaluator (Concurs)

/-- An expression that samples nothing is evaluated alike where more levels are left, unless it goes
deeper than there are levels and is refused. -/
theorem Unsampled.concurs {expr : Expr} (unsampled : expr.Unsampled) (bindings : Bindings)
    (ceiling higher : Nat) {levels more : Nat} (le : levels ≤ more) :
    Concurs ceiling (levels < expr.descent) (expr.evaluate ⟨bindings, ceiling, true⟩ levels)
      (expr.evaluate ⟨bindings, higher, true⟩ more) := by
  induction expr generalizing levels more with
  | number value span =>
    exact .visit le fun below above _ _ => .conclude _ _ _
  | symbol name span =>
    exact .visit le fun below above _ _ => .conclude _ _ _
  | paren inner span hypothesis =>
    refine .visit le fun below above descends le_above => ?_
    obtain rfl : levels = below + 1 := descends
    refine Concurs.bind ((hypothesis unsampled le_above).imp Nat.succ_lt_succ) fun value => ?_
    exact .conclude _ _ _
  | call function functionSpan argument parenSpan span hypothesis =>
    refine .visit le fun below above descends le_above => ?_
    obtain rfl : levels = below + 1 := descends
    refine Concurs.bind ((hypothesis unsampled le_above).imp Nat.succ_lt_succ) fun value => ?_
    exact .conclude _ _ _
  | unary op operand span hypothesis =>
    refine .visit le fun below above descends le_above => ?_
    obtain rfl : levels = below + 1 := descends
    refine Concurs.bind ((hypothesis unsampled le_above).imp Nat.succ_lt_succ) fun value => ?_
    exact .conclude _ _ _
  | binary op left right span leftHypothesis rightHypothesis =>
    refine .visit le fun below above descends le_above => ?_
    obtain rfl : levels = below := descends
    have leftConcurs := (leftHypothesis unsampled.1 le_above).imp fun deep =>
      Nat.lt_of_lt_of_le deep (Nat.le_max_left _ right.descent)
    have rightConcurs := (rightHypothesis unsampled.2 le_above).imp fun deep =>
      Nat.lt_of_lt_of_le deep (Nat.le_max_right left.descent _)
    exact leftConcurs.bind fun leftValue => rightConcurs.bind fun rightValue => .conclude _ _ _
  | derivative wrt body span =>
    refine .visit le fun below above _ _ => ?_
    exact (Concurs.lift _).bind fun derived => .conclude _ _ _
  | indefinite wrt body span =>
    refine .visit le fun below above _ _ => ?_
    exact (Concurs.lift _).bind fun antiderivative => .conclude _ _ _
  | definite => contradiction

/-- Working an expression out under a higher ceiling ends alike, unless the expression goes deeper
than the lower ceiling allows and is refused under it. -/
theorem Unsampled.workOut_eq_or {expr : Expr} (unsampled : expr.Unsampled) (bindings : Bindings)
    {ceiling higher : Nat} (le : ceiling ≤ higher) :
    expr.workOut bindings higher = expr.workOut bindings ceiling
      ∨ ceiling < expr.descent ∧ ∀ value trace, expr.workOut bindings ceiling = .ok (value, trace) →
        ∃ step ∈ trace, step.Refuses ceiling := by
  unfold workOut
  rcases (unsampled.concurs bindings ceiling higher le).ends .initial with same | ⟨deep, refuses⟩
  · exact .inl (by rw [same])
  · refine .inr ⟨deep, fun value trace worksOut => ?_⟩
    cases result : (expr.evaluate ⟨bindings, ceiling, true⟩ ceiling).run .initial with
    | error overflow =>
      rw [result] at worksOut
      contradiction
    | ok pair =>
      rw [result] at worksOut
      obtain ⟨rfl, rfl⟩ := Prod.mk.inj (Except.ok.inj worksOut)
      obtain ⟨step, member, isRefusal⟩ := refuses pair.1 pair.2 result
      exact ⟨step, Array.mem_toList_iff.2 member, isRefusal⟩

/-- The ceiling only ever forbids. What is found out without a refusal is found out under every
higher ceiling, with the same trace. And nothing is refused if no path of the expression nests more
often than the ceiling allows, so that every higher ceiling changes nothing, even where the
evaluation breaks off. -/
theorem workOut_of_higher {expr : Expr} (unsampled : expr.Unsampled) (bindings : Bindings)
    {ceiling higher : Nat} (le : ceiling ≤ higher) :
    (∀ value trace, expr.workOut bindings ceiling = .ok (value, trace) →
        (∀ step ∈ trace, ¬ step.Refuses ceiling) →
        expr.workOut bindings higher = .ok (value, trace))
      ∧ (expr.nesting ≤ ceiling →
        (∀ value trace, expr.workOut bindings ceiling = .ok (value, trace) →
          ∀ step ∈ trace, ¬ step.Refuses ceiling)
        ∧ expr.workOut bindings higher = expr.workOut bindings ceiling) := by
  have alike := unsampled.workOut_eq_or bindings le
  refine ⟨fun value trace worksOut noRefusal => ?_, fun shallow => ?_⟩
  · rcases alike with same | ⟨-, refuses⟩
    · exact same.trans worksOut
    · obtain ⟨step, member, isRefusal⟩ := refuses value trace worksOut
      exact absurd isRefusal (noRefusal step member)
  · have descent_le := Nat.le_trans expr.descent_le_nesting shallow
    refine ⟨fun value trace => not_refuses_of_descent_le descent_le, ?_⟩
    exact alike.resolve_right fun ⟨deep, _⟩ => Nat.not_lt.2 descent_le deep

/-- A sum nests no more often than its operands, one level here, and its second operand recalls the
name in the first one. -/
theorem workOut_of_higher_sum :
    let sum := binary .plus (paren (.symbol "x" ⟨1, 2⟩) ⟨0, 3⟩)
      (call "sin" ⟨4, 7⟩ (.symbol "x" ⟨8, 9⟩) ⟨7, 10⟩ ⟨4, 10⟩) ⟨0, 10⟩
    sum.Unsampled ∧ sum.nesting = 1
      ∧ ∃ value trace, sum.workOut Bindings.empty 1 = .ok (value, trace)
        ∧ (∀ step ∈ trace, ¬ step.Refuses 1)
        ∧ sum.workOut Bindings.empty 4 = .ok (value, trace) := by
  intro sum
  have unsampled : sum.Unsampled := ⟨trivial, trivial⟩
  have ceiling_le : 1 ≤ 4 := by decide
  obtain ⟨unrefused, shallow⟩ := workOut_of_higher unsampled Bindings.empty ceiling_le
  have noRefusal := (shallow (Nat.le_refl 1)).1 _ _ rfl
  exact ⟨unsampled, rfl, _, _, rfl, noRefusal, unrefused _ _ rfl noRefusal⟩

end Expr

end Workings
