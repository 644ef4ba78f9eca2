import Workings.Evaluation
import Workings.Proofs.Expr.RoundTrip

/-!
# Evaluation without memory

The rules of evaluation can be followed without remembering anything: every expression is walked
whenever it is met. Such a walk tells what an evaluation is to find. It ends where an evaluation
breaks off, and also where an expression nests too deeply, so that the value of a walk depends
neither on the levels that were left nor on the regions of the expression.
-/

namespace Workings

/-- Why a walk ends early. -/
inductive Halt where
  | overflow (cause : Overflow)
  /-- An expression nests where no level is left. -/
  | tooDeep

namespace Evaluation

/-- Walks an expression on the next level down if it nests. -/
def descend (expr : Expr) (levels : Nat) (walk : Nat → Except Halt Value) : Except Halt Value :=
  if expr.nests then
    match levels with
    | 0 => .error .tooDeep
    | below + 1 => walk below
  else walk levels

end Evaluation

open Evaluation in
/-- Walks an expression where the given number of levels may still nest. Each rule is the one of
evaluation, without a step for the trace. -/
def Expr.walk : Expr → Scope → (levels : Nat) → Except Halt Value
  | expr@(.number value _), _, levels =>
    descend expr levels fun _ => return (literal value).value
  | expr@(.symbol name _), scope, levels =>
    descend expr levels fun _ => return (lookUp scope.bindings name).value
  | expr@(.paren inner _), scope, levels =>
    descend expr levels fun levels => do
      return (enclose inner.text (← inner.walk scope levels)).value
  | expr@(.call function _ argument _ _), scope, levels =>
    descend expr levels fun levels => do
      return (applyFunction function (← argument.walk scope levels)).value
  | expr@(.unary op operand _), scope, levels =>
    descend expr levels fun levels => do
      return (applySign op (← operand.walk scope levels)).value
  | expr@(.binary op left right _), scope, levels =>
    descend expr levels fun levels => do
      let leftValue ← left.walk scope levels
      let rightValue ← right.walk scope levels
      return (combine op leftValue rightValue).value
  | expr@(.derivative wrt body _), _, levels =>
    descend expr levels fun _ => do
      let derived ← (Calculus.differentiate wrt body.innermost.text).mapError .overflow
      return (differentiated wrt body derived).value
  | expr@(.indefinite wrt body _), _, levels =>
    descend expr levels fun _ => do
      let antiderivative ← (Calculus.integrate wrt body.innermost.text).mapError .overflow
      return (integrated wrt body antiderivative).value
  | expr@(.definite wrt lower upper body _), scope, levels =>
    descend expr levels fun levels => do
      let lowerValue ← lower.walk scope levels
      let upperValue ← upper.walk scope levels
      let sample (place : Float) := body.walk (scope.inside wrt place) scope.ceiling
      let area ← areaBetween sample lowerValue upperValue
      return (integratedBetween wrt body.innermost.text lowerValue upperValue area).value

/-! ## Following a walk -/

section

variable {ε ε' α β γ δ : Type} {stop : ε → Halt}

/-- A computation follows a walk: if the walk is not too deep, both find related results or break
off for the same cause. -/
inductive Follows (stop : ε → Halt) (related : α → β → Prop) :
    Except ε α → Except Halt β → Prop where
  | value {found : α} {walked : β} (relates : related found walked) :
      Follows stop related (.ok found) (.ok walked)
  | stopped (cause : ε) : Follows stop related (.error cause) (.error (stop cause))
  | tooDeep (computed : Except ε α) : Follows stop related computed (.error .tooDeep)

namespace Follows

/-- A computation that goes on with related results follows a walk that goes on. -/
theorem bind {related : α → β → Prop} {relatedNext : γ → δ → Prop} {computed : Except ε α}
    {walked : Except Halt β} {next : α → Except ε γ} {walkNext : β → Except Halt δ}
    (follows : Follows stop related computed walked)
    (goesOn : ∀ found walked, related found walked →
      Follows stop relatedNext (next found) (walkNext walked)) :
    Follows stop relatedNext (computed >>= next) (walked >>= walkNext) := by
  cases follows with
  | value relates => exact goesOn _ _ relates
  | stopped cause => exact .stopped cause
  | tooDeep computed => exact .tooDeep _

/-- A computation that follows a walk with one relation does so with every weaker one. -/
theorem imp {related weaker : α → β → Prop} {computed : Except ε α} {walked : Except Halt β}
    (follows : Follows stop related computed walked)
    (implies : ∀ found walked, related found walked → weaker found walked) :
    Follows stop weaker computed walked := by
  cases follows with
  | value relates => exact .value (implies _ _ relates)
  | stopped cause => exact .stopped cause
  | tooDeep computed => exact .tooDeep computed

/-- A computation that breaks off for other causes follows itself. -/
theorem mapError (computed : Except ε α) :
    Follows stop Eq computed (computed.mapError stop) := by
  cases computed with
  | ok found => exact .value rfl
  | error cause => exact .stopped cause

/-- Every walk follows itself. -/
theorem refl (walked : Except Halt α) : Follows id Eq walked walked := by
  cases walked with
  | ok found => exact .value rfl
  | error cause => exact .stopped cause

/-- A computation with results that are turned into others follows a walk with the same ones. -/
theorem map {computed : Except ε α} {walked : Except Halt α}
    (follows : Follows stop Eq computed walked) (function : α → β) :
    Follows stop Eq (function <$> computed) (function <$> walked) := by
  cases follows with
  | value same => exact .value (congrArg function same)
  | stopped cause => exact .stopped cause
  | tooDeep computed => exact .tooDeep _

/-- A computation that goes on with the result it found, if any, follows a walk that does so. -/
theorem optionBind {computed : OptionT (Except ε) α} {walked : OptionT (Except Halt) α}
    {next : α → OptionT (Except ε) β} {walkNext : α → OptionT (Except Halt) β}
    (follows : Follows stop Eq computed.run walked.run)
    (goesOn : ∀ found, Follows stop Eq (next found).run (walkNext found).run) :
    Follows stop Eq (computed >>= next).run (walked >>= walkNext).run := by
  rw [OptionT.run_bind, OptionT.run_bind]
  refine follows.bind ?_
  rintro found _ rfl
  cases found with
  | none => exact .value rfl
  | some found => exact goesOn found

/-- A computation along a list follows a walk along it if each of its steps does. -/
theorem foldlM {step : β → α → OptionT (Except ε) β} {walkStep : β → α → OptionT (Except Halt) β}
    (follows : ∀ sofar item, Follows stop Eq (step sofar item).run (walkStep sofar item).run)
    (sofar : β) (items : List α) :
    Follows stop Eq (items.foldlM step sofar).run (items.foldlM walkStep sofar).run := by
  induction items generalizing sofar with
  | nil => exact .value rfl
  | cons item items hypothesis =>
    rw [List.foldlM_cons, List.foldlM_cons]
    exact (follows sofar item).optionBind hypothesis

/-- A computation that follows a walk finds what the walk finds, unless the walk is too deep. -/
theorem mapError_eq {computed : Except ε α} {walked : Except Halt α}
    (follows : Follows stop Eq computed walked) (shallow : walked ≠ .error .tooDeep) :
    computed.mapError stop = walked := by
  cases follows with
  | value relates => exact congrArg Except.ok relates
  | stopped cause => rfl
  | tooDeep computed => exact absurd rfl shallow

end Follows

namespace Evaluation

/-- A sum by Simpson's rule follows another one if its samples do. -/
theorem follows_simpson {sample : Float → OptionT (Except ε) Float}
    {walk : Float → OptionT (Except Halt) Float}
    (samples : ∀ place, Follows stop Eq (sample place).run (walk place).run)
    (lower upper : Float) :
    Follows stop Eq (simpson sample lower upper).run (simpson walk lower upper).run := by
  refine (samples lower).optionBind fun atLower => ?_
  refine (samples upper).optionBind fun atUpper => ?_
  refine Follows.optionBind (.foldlM (fun sum index => ?_) _ _) fun sum => .value rfl
  exact (samples _).optionBind fun value => .value rfl

/-- The area under a curve follows another one if its samples do. -/
theorem follows_areaBetween {sample : Float → Except ε Value} {walk : Float → Except Halt Value}
    (samples : ∀ place, Follows stop Eq (sample place) (walk place)) (lower upper : Value) :
    Follows stop Eq (areaBetween sample lower upper) (areaBetween walk lower upper) := by
  unfold areaBetween
  split
  · exact follows_simpson (fun place => (samples place).map finiteNumber?) _ _
  · exact .value rfl

end Evaluation

end

namespace Evaluation

/-- Every walk below an expression is a walk of the expression where levels enough are left. -/
theorem exists_descend_eq (expr : Expr) (walk : Nat → Except Halt Value) (below : Nat) :
    ∃ levels, descend expr levels walk = walk below := by
  by_cases nests : expr.nests
  · exact ⟨below + 1, if_pos nests⟩
  · exact ⟨below, if_neg nests⟩

/-- Walks of the same expression follow each other if they do so below it. More levels may be left
in the one that follows. -/
theorem follows_descend {expr : Expr} {levels more : Nat} {walk : Nat → Except Halt Value}
    (le : levels ≤ more)
    (below : ∀ less more, less ≤ more → Follows id Eq (walk more) (walk less)) :
    Follows id Eq (descend expr more walk) (descend expr levels walk) := by
  unfold descend
  by_cases nests : expr.nests
  · rw [if_pos nests, if_pos nests]
    cases levels with
    | zero => exact .tooDeep _
    | succ levels =>
      obtain ⟨more, rfl⟩ := Nat.exists_eq_add_of_le' (Nat.lt_of_lt_of_le levels.succ_pos le)
      exact below levels more (Nat.le_of_succ_le_succ le)
  · rw [if_neg nests, if_neg nests]
    exact below levels more le

end Evaluation

namespace Expr

open Evaluation

/-- Where more levels are left, a walk finds the same. -/
theorem walk_follows (expr : Expr) (scope : Scope) {levels more : Nat} (le : levels ≤ more) :
    Follows id Eq (expr.walk scope more) (expr.walk scope levels) := by
  induction expr generalizing levels more with
  | number value span => exact follows_descend le fun _ _ _ => .refl _
  | symbol name span => exact follows_descend le fun _ _ _ => .refl _
  | paren inner span hypothesis =>
    refine follows_descend le fun less more le => ?_
    refine (hypothesis le).bind ?_
    rintro _ value rfl
    exact .refl _
  | call function _ argument _ _ hypothesis =>
    refine follows_descend le fun less more le => ?_
    refine (hypothesis le).bind ?_
    rintro _ value rfl
    exact .refl _
  | unary op operand span hypothesis =>
    refine follows_descend le fun less more le => ?_
    refine (hypothesis le).bind ?_
    rintro _ value rfl
    exact .refl _
  | binary op left right span leftHypothesis rightHypothesis =>
    refine follows_descend le fun less more le => ?_
    refine (leftHypothesis le).bind ?_
    rintro _ leftValue rfl
    refine (rightHypothesis le).bind ?_
    rintro _ rightValue rfl
    exact .refl _
  | derivative wrt body span => exact follows_descend le fun _ _ _ => .refl _
  | indefinite wrt body span => exact follows_descend le fun _ _ _ => .refl _
  | definite wrt lower upper body span lowerHypothesis upperHypothesis =>
    -- The samples are walked with all levels in both.
    refine follows_descend le fun less more le => ?_
    refine (lowerHypothesis le).bind ?_
    rintro _ lowerValue rfl
    refine (upperHypothesis le).bind ?_
    rintro _ upperValue rfl
    exact .refl _

/-- A value that was found with some levels left follows every walk of the expression. -/
theorem follows_of_walk {expr : Expr} {scope : Scope} {levels : Nat} {value : Value}
    (walked : expr.walk scope levels = .ok value) {ε : Type} (stop : ε → Halt) (others : Nat) :
    Follows stop Eq (.ok value) (expr.walk scope others) := by
  have enough : expr.walk scope (max levels others) = .ok value := by
    have follows := expr.walk_follows scope (Nat.le_max_left levels others)
    rw [walked] at follows
    generalize expr.walk scope (max levels others) = deep at follows ⊢
    cases follows with
    | value same => rw [same]
  have follows := expr.walk_follows scope (Nat.le_max_right levels others)
  rw [enough] at follows
  generalize expr.walk scope others = other at follows
  cases follows with
  | value same => exact .value same
  | tooDeep => exact .tooDeep _

/-- A tree without regions has none inside its parentheses. -/
@[simp] theorem innermost_bare (expr : Expr) : expr.bare.innermost = expr.innermost.bare := by
  induction expr <;> simp_all [bare, innermost]

/-- Regions do not count for whether a tree nests. -/
@[simp] theorem nests_bare (expr : Expr) : expr.bare.nests = expr.nests := by
  cases expr <;> rfl

/-- Regions do not count for a walk. -/
@[simp] theorem walk_bare (expr : Expr) (scope : Scope) (levels : Nat) :
    expr.bare.walk scope levels = expr.walk scope levels := by
  induction expr generalizing scope levels with
  | derivative wrt body span => simp [bare, walk, descend, nests, differentiated]
  | indefinite wrt body span => simp [bare, walk, descend, nests, integrated]
  | _ => simp_all [bare, walk, descend, nests]

end Expr

end Workings
