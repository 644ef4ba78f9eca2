import Mathlib.Data.List.Nodup
import Mathlib.Data.List.Perm.Basic
import Workings.Evaluation

/-!
# What an evaluation reads of its bindings

An evaluation asks its bindings for the numbers of free names and for nothing else. So bindings that
bind these names alike give the same value and the same trace, in whatever order they are listed and
whatever else they bind. What is remembered tells no more: it was found in the same evaluation, and
every sample of an integral is an evaluation of its own.
-/

namespace Workings

/-- Bindings that are listed in another order bind the same numbers. -/
theorem Bindings.get?_eq_of_perm {left right : Bindings} (listed : left.pairs.Perm right.pairs)
    (name : String) : left.get? name = right.get? name := by
  ext value
  rw [get?_eq_some_iff, get?_eq_some_iff, listed.mem_iff]

/-- Bindings that bind the same numbers are listed alike, but for the order. -/
theorem Bindings.perm_of_get?_eq {left right : Bindings}
    (same : ∀ name, left.get? name = right.get? name) : left.pairs.Perm right.pairs := by
  refine (List.perm_ext_iff_of_nodup left.distinct.of_map right.distinct.of_map).2 ?_
  rintro ⟨name, value⟩
  rw [← get?_eq_some_iff, ← get?_eq_some_iff, same]

/-- The names whose numbers an evaluation may ask for. Derivatives and integrals without bounds are
worked out on texts and ask for none, and the name of an integral with bounds is bound in its
body. -/
def Expr.freeNames : Expr → List String
  | .number _ _ | .derivative _ _ _ | .indefinite _ _ _ => []
  | .symbol name _ => [name]
  | .paren inner _ => inner.freeNames
  | .call _ _ argument _ _ => argument.freeNames
  | .unary _ operand _ => operand.freeNames
  | .binary _ left right _ => left.freeNames ++ right.freeNames
  | .definite wrt lower upper body _ =>
    lower.freeNames ++ upper.freeNames ++ body.freeNames.filter (· ≠ wrt)

/-- Scopes in which the given names are worth the same. -/
structure Scope.Agrees (names : List String) (left right : Scope) : Prop where
  get?_eq : ∀ name ∈ names, left.bindings.get? name = right.bindings.get? name
  ceiling_eq : left.ceiling = right.ceiling
  recording_eq : left.recording = right.recording

/-- Scopes that agree on names agree on some of them. -/
theorem Scope.Agrees.mono {names fewer : List String} {left right : Scope}
    (agrees : Agrees names left right) (subset : fewer ⊆ names) : Agrees fewer left right where
  get?_eq name member := agrees.get?_eq name (subset member)
  ceiling_eq := agrees.ceiling_eq
  recording_eq := agrees.recording_eq

/-- Scopes that agree on all names but one agree on that one, too, where it is bound by an
integral. -/
theorem Scope.Agrees.inside {names : List String} {left right : Scope} {wrt : String}
    (agrees : Agrees (names.filter (· ≠ wrt)) left right) (place : Float) :
    Agrees names (left.inside wrt place) (right.inside wrt place) where
  get?_eq name member := by
    simp only [Scope.inside, Bindings.get?_set]
    split
    · rfl
    · rename_i other
      exact agrees.get?_eq name (List.mem_filter.2 ⟨member, decide_eq_true other⟩)
  ceiling_eq := agrees.ceiling_eq
  recording_eq := rfl

namespace Evaluation

variable {names : List String} {left right : Scope}

/-- Scopes that agree conclude alike. -/
theorem conclude_congr (agrees : left.Agrees names right) (conclusion : Conclusion) :
    conclude left conclusion = conclude right conclusion := by
  unfold conclude
  rw [agrees.recording_eq]

/-- Scopes that agree visit expressions alike, if they compute them alike. -/
theorem visit_congr (agrees : left.Agrees names right) (levels : Nat) (expr : Expr)
    {leftCompute rightCompute : Nat → Evaluator Value}
    (computes : ∀ below, leftCompute below = rightCompute below) :
    visit left levels expr leftCompute = visit right levels expr rightCompute := by
  obtain rfl : leftCompute = rightCompute := funext computes
  unfold visit
  simp only [conclude_congr agrees, agrees.ceiling_eq]

/-- A name is worth the same in scopes that agree on it. -/
theorem lookUp_congr {name : String} (agrees : left.Agrees names right) (member : name ∈ names) :
    lookUp left.bindings name = lookUp right.bindings name := by
  unfold lookUp
  rw [agrees.get?_eq name member]

end Evaluation

open Evaluation

/-- Scopes that agree on the free names of an expression evaluate it alike, whatever is
remembered. -/
theorem Expr.evaluate_congr (expr : Expr) {left right : Scope}
    (agrees : left.Agrees expr.freeNames right) (levels : Nat) :
    expr.evaluate left levels = expr.evaluate right levels := by
  induction expr generalizing left right levels with
  | number value span =>
    simp only [evaluate]
    exact visit_congr agrees levels _ fun _ => conclude_congr agrees _
  | symbol name span =>
    simp only [evaluate, lookUp_congr agrees (List.mem_singleton_self name)]
    exact visit_congr agrees levels _ fun _ => conclude_congr agrees _
  | paren inner span hypothesis =>
    simp only [evaluate]
    refine visit_congr agrees levels _ fun below => ?_
    simp only [hypothesis agrees, conclude_congr agrees]
  | call function functionSpan argument parenSpan span hypothesis =>
    simp only [evaluate]
    refine visit_congr agrees levels _ fun below => ?_
    simp only [hypothesis agrees, conclude_congr agrees]
  | unary op operand span hypothesis =>
    simp only [evaluate]
    refine visit_congr agrees levels _ fun below => ?_
    simp only [hypothesis agrees, conclude_congr agrees]
  | binary op leftSide rightSide span leftHypothesis rightHypothesis =>
    have leftAgrees := agrees.mono (List.subset_append_left _ _)
    have rightAgrees := agrees.mono (List.subset_append_right _ _)
    simp only [evaluate]
    refine visit_congr agrees levels _ fun below => ?_
    simp only [leftHypothesis leftAgrees, rightHypothesis rightAgrees, conclude_congr agrees]
  | derivative wrt body span hypothesis =>
    simp only [evaluate]
    refine visit_congr agrees levels _ fun below => ?_
    simp only [conclude_congr agrees]
  | indefinite wrt body span hypothesis =>
    simp only [evaluate]
    refine visit_congr agrees levels _ fun below => ?_
    simp only [conclude_congr agrees]
  | definite wrt lower upper body span lowerHypothesis upperHypothesis bodyHypothesis =>
    have boundsAgree := agrees.mono (List.subset_append_left _ _)
    have lowerAgrees := boundsAgree.mono (List.subset_append_left _ _)
    have upperAgrees := boundsAgree.mono (List.subset_append_right _ _)
    have bodyAgrees := agrees.mono (List.subset_append_right _ _)
    have samples (place : Float) := bodyHypothesis (bodyAgrees.inside place) right.ceiling
    simp only [evaluate]
    refine visit_congr agrees levels _ fun below => ?_
    simp only [lowerHypothesis lowerAgrees, upperHypothesis upperAgrees, conclude_congr agrees,
      samples, agrees.ceiling_eq]

/-- The order in which bindings are listed changes neither the value of an expression nor the
trace. -/
theorem Expr.workOut_eq_of_perm (expr : Expr) {left right : Bindings}
    (listed : left.pairs.Perm right.pairs) (ceiling : Nat) :
    expr.workOut left ceiling = expr.workOut right ceiling := by
  have agrees : Scope.Agrees expr.freeNames ⟨left, ceiling, true⟩ ⟨right, ceiling, true⟩ :=
    ⟨fun name _ => Bindings.get?_eq_of_perm listed name, rfl, rfl⟩
  unfold workOut
  rw [expr.evaluate_congr agrees]

namespace Evaluation

/-! ## Integrals -/

variable {levels : Nat} {scope : Scope}

/-- The bounds of an integral come to two values, one after the other. -/
def Bounds (scope : Scope) (levels : Nat) (lower upper : Expr) (before : Progress)
    (lowerValue upperValue : Value) : Prop :=
  ∃ between after, (lower.evaluate scope levels).run before = .ok (lowerValue, between)
    ∧ (upper.evaluate scope levels).run between = .ok (upperValue, after)

/-- What is found out about an expression that is not remembered, where a level is left for it. -/
theorem value_visit {expr : Expr} {compute : Nat → Evaluator Value} {before : Progress}
    (nests : expr.nests) (absent : before.memo.lookup expr.text = none) :
    Prod.fst <$> (visit scope (levels + 1) expr compute).run before
      = Prod.fst <$> (compute levels).run before := by
  have computed : (visit scope (levels + 1) expr compute).run before
      = (remember expr.text (compute levels)).run before := by
    simp [visit, absent, nests]
  rw [computed]
  unfold remember
  simp

/-- What is found out about an integral depends on its bounds by their values, and on its samples by
the scope alone. -/
theorem value_definite {wrt : String} {lower upper body : Expr} {span : Span} {before : Progress}
    {lowerValue upperValue : Value}
    (absent : before.memo.lookup (Expr.definite wrt lower upper body span).text = none)
    (bounds : Bounds scope levels lower upper before lowerValue upperValue) :
    Prod.fst <$> ((Expr.definite wrt lower upper body span).evaluate scope (levels + 1)).run before
      = (fun area => (integratedBetween wrt body.innermost.text lowerValue upperValue area).value)
        <$> areaBetween
          (fun place => alone (body.evaluate (scope.inside wrt place) scope.ceiling))
          lowerValue upperValue := by
  obtain ⟨between, after, lowerEnds, upperEnds⟩ := bounds
  have goOn {α β : Type} (found : α) (next : α → Except Overflow β) :
      (Except.ok found >>= next) = next found := rfl
  rw [Expr.evaluate, value_visit rfl absent]
  simp only [StateT.run_bind, lowerEnds, upperEnds, goOn]
  cases areaBetween (fun place => alone (body.evaluate (scope.inside wrt place) scope.ceiling))
    lowerValue upperValue with
  | error overflow => rfl
  | ok area => rfl

end Evaluation

/-- Evaluation depends on the free names alone: bindings that agree on the free names of an
expression give the same value and the same trace, or break off alike. In particular, what the name
of an integral is bound to outside never shows in the body. Wherever the integral is met, and
whatever is remembered there, its value is the same as soon as its bounds come to the same
values. -/
theorem Expr.workOut_eq_of_agree :
    (∀ (expr : Expr) (left right : Bindings),
      (∀ name ∈ expr.freeNames, left.get? name = right.get? name) →
      ∀ ceiling, expr.workOut left ceiling = expr.workOut right ceiling)
    ∧ ∀ (wrt : String) (lower upper body : Expr) (span : Span) (left right : Bindings),
      (∀ name ∈ body.freeNames, name ≠ wrt → left.get? name = right.get? name) →
      ∀ (ceiling levels : Nat) (before before' : Progress) (lowerValue upperValue : Value),
        before.memo.lookup (definite wrt lower upper body span).text = none →
        before'.memo.lookup (definite wrt lower upper body span).text = none →
        Bounds ⟨left, ceiling, true⟩ levels lower upper before lowerValue upperValue →
        Bounds ⟨right, ceiling, true⟩ levels lower upper before' lowerValue upperValue →
        let valueIn (bindings : Bindings) (progress : Progress) := Prod.fst <$>
          ((definite wrt lower upper body span).evaluate ⟨bindings, ceiling, true⟩
            (levels + 1)).run progress
        valueIn left before = valueIn right before' := by
  constructor
  · intro expr left right agree ceiling
    have agrees : Scope.Agrees expr.freeNames ⟨left, ceiling, true⟩ ⟨right, ceiling, true⟩ :=
      ⟨agree, rfl, rfl⟩
    unfold workOut
    rw [expr.evaluate_congr agrees]
  · intro wrt lower upper body span left right agree ceiling levels before before' lowerValue
      upperValue absent absent' bounds bounds'
    have agrees : Scope.Agrees (body.freeNames.filter (· ≠ wrt)) ⟨left, ceiling, true⟩
        ⟨right, ceiling, true⟩ := by
      refine ⟨fun name member => ?_, rfl, rfl⟩
      obtain ⟨isFree, other⟩ := List.mem_filter.1 member
      exact agree name isFree (of_decide_eq_true other)
    have samples (place : Float) := body.evaluate_congr (agrees.inside place) ceiling
    dsimp only
    rw [value_definite absent bounds, value_definite absent' bounds']
    simp only [samples]

/-- The area under the bisector, where its name is bound to five in one run and to seven in the
other, and remembered so. -/
theorem Expr.workOut_eq_of_agree_bisector :
    let integral : Expr :=
      .definite "x" (.number 0 ⟨0, 0⟩) (.number 1 ⟨0, 0⟩) (.symbol "x" ⟨0, 0⟩) ⟨0, 0⟩
    let five := Bindings.empty.set "x" 5
    let seven := Bindings.empty.set "x" 7
    integral.workOut five 1 = integral.workOut seven 1
      ∧ Prod.fst <$> (integral.evaluate ⟨five, 1, true⟩ 1).run ⟨[("x", .number 5)], #[]⟩
        = Prod.fst <$> (integral.evaluate ⟨seven, 1, true⟩ 1).run ⟨[("x", .number 7)], #[]⟩ := by
  intro integral five seven
  refine ⟨workOut_eq_of_agree.1 integral five seven (by simp [integral, freeNames]) 1, ?_⟩
  exact workOut_eq_of_agree.2 "x" (.number 0 ⟨0, 0⟩) (.number 1 ⟨0, 0⟩) (.symbol "x" ⟨0, 0⟩) ⟨0, 0⟩
    five seven (by simp [freeNames]) 1 0 ⟨[("x", .number 5)], #[]⟩ ⟨[("x", .number 7)], #[]⟩
    (.number 0) (.number 1) rfl rfl ⟨_, _, rfl, rfl⟩ ⟨_, _, rfl, rfl⟩

end Workings
