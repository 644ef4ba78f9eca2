import Workings.Expr.Literal
import Workings.Proofs.Evaluation.Walk

/-!
# Remembering changes no value

An evaluation remembers values by the texts of expressions, not by the expressions. The text of a
tree that was read by the grammar tells which tree it is, so a remembered value is the one that a
walk of the expression would find. A text that is one derivative or one integral has a tree of
another kind, whose text need not tell it. Such a tree is the whole expression, and its value is
remembered only when nothing is left to evaluate.
-/

namespace Workings

/-- Every remembered value is found by a walk of a tree with that text, which can be written. -/
def Scope.Remembers (scope : Scope) (memo : List (String × Value)) : Prop :=
  ∀ entry ∈ memo, ∃ (expr : Expr) (levels : Nat), expr.Readable ∧ expr.Finite
    ∧ expr.text = entry.1 ∧ expr.walk scope levels = .ok entry.2

/-- Where nothing is remembered, nothing wrong is. -/
theorem Scope.remembers_nil (scope : Scope) : scope.Remembers [] := by
  simp [Remembers]

/-- A value that is remembered for the text of an expression is the one that a walk of the
expression finds, however many levels are left. -/
theorem Scope.Remembers.follows {scope : Scope} {memo : List (String × Value)}
    (remembers : scope.Remembers memo) {expr : Expr} (readable : expr.Readable)
    (finite : expr.Finite) {value : Value} (remembered : memo.lookup expr.text = some value)
    (levels : Nat) : Follows .overflow Eq (.ok value) (expr.walk scope levels) := by
  obtain ⟨before, after, rfl, -⟩ := List.lookup_eq_some_iff.1 remembered
  obtain ⟨other, deep, otherReadable, otherFinite, sameText, walked⟩ :=
    remembers (expr.text, value) (by simp)
  have same : other.bare = expr.bare :=
    otherReadable.bare_eq_of_text_eq readable otherFinite finite sameText
  rw [← other.walk_bare, same, expr.walk_bare] at walked
  exact Expr.follows_of_walk walked _ levels

/-- What was found with right values remembered, and right values are remembered afterwards. -/
def Scope.Keeps {α : Type} (scope : Scope) (found : α × Progress) (walked : α) : Prop :=
  found.1 = walked ∧ scope.Remembers found.2.memo

/-- An evaluator follows a walk from every state in which the right values are remembered, and
remembers the right values afterwards. -/
def Evaluator.Mirrors {α : Type} (scope : Scope) (evaluator : Evaluator α)
    (walked : Except Halt α) : Prop :=
  ∀ progress, scope.Remembers progress.memo →
    Follows .overflow scope.Keeps (evaluator.run progress) walked

namespace Evaluator.Mirrors

variable {α β : Type} {scope : Scope}

/-- An evaluator that goes on mirrors a walk that goes on. -/
theorem bind {evaluator : Evaluator α} {walked : Except Halt α} {next : α → Evaluator β}
    {walkNext : α → Except Halt β} (mirrors : Mirrors scope evaluator walked)
    (goesOn : ∀ found, Mirrors scope (next found) (walkNext found)) :
    Mirrors scope (evaluator >>= next) (walked >>= walkNext) := by
  intro progress remembers
  refine (mirrors progress remembers).bind ?_
  rintro ⟨found, after⟩ _ ⟨rfl, remembersAfter⟩
  exact goesOn found after remembersAfter

/-- A computation outside the memory mirrors the walk that it follows. -/
theorem lift {computed : Except Overflow α} {walked : Except Halt α}
    (follows : Follows .overflow Eq computed walked) :
    Mirrors scope (liftM computed : Evaluator α) walked := by
  intro progress remembers
  cases follows with
  | value same => exact .value ⟨same, remembers⟩
  | stopped cause => exact .stopped cause
  | tooDeep computed => exact .tooDeep _

/-- An evaluation of its own begins with nothing remembered. -/
theorem alone {evaluator : Evaluator Value} {walked : Except Halt Value}
    (mirrors : Mirrors scope evaluator walked) :
    Follows .overflow Eq (Evaluation.alone evaluator) walked := by
  have follows := mirrors .initial scope.remembers_nil
  unfold Evaluation.alone
  generalize evaluator.run .initial = result at follows ⊢
  cases follows with
  | value keeps => exact .value keeps.1
  | stopped cause => exact .stopped cause
  | tooDeep => exact .tooDeep _

end Evaluator.Mirrors

namespace Evaluation

open Evaluator (Mirrors)

variable {scope : Scope} {levels : Nat} {expr : Expr}

/-- A conclusion changes only the trace. -/
theorem mirrors_conclude (conclusion : Conclusion) :
    Mirrors scope (conclude scope conclusion) (.ok conclusion.value) := by
  intro progress remembers
  refine .value ⟨rfl, ?_⟩
  by_cases recording : scope.recording
  · simpa [recording] using remembers
  · simpa [recording] using remembers

/-- What is computed is remembered by its key. -/
theorem run_remember (key : String) (compute : Evaluator Value) (progress : Progress) :
    (remember key compute).run progress = compute.run progress >>= fun found =>
      .ok (found.1, { found.2 with memo := (key, found.1) :: found.2.memo }) :=
  rfl

/-- The value that a walk of an expression finds may be remembered by its text. -/
theorem mirrors_remember (readable : expr.Readable) (finite : expr.Finite)
    {compute : Evaluator Value} {walked : Except Halt Value}
    (walks : expr.walk scope levels = walked) (mirrors : Mirrors scope compute walked) :
    Mirrors scope (remember expr.text compute) walked := by
  intro progress remembers
  have follows := mirrors progress remembers
  rw [run_remember]
  generalize compute.run progress = computed at follows
  cases follows with
  | value keeps =>
    obtain ⟨rfl, remembersAfter⟩ := keeps
    refine .value ⟨rfl, ?_⟩
    exact List.forall_mem_cons.2 ⟨⟨expr, levels, readable, finite, rfl, walks⟩, remembersAfter⟩
  | stopped cause => exact .stopped cause
  | tooDeep computed => exact .tooDeep _

variable {compute : Nat → Evaluator Value} {walk : Nat → Except Halt Value} {progress : Progress}

/-- An expression whose value is remembered is not computed. -/
theorem run_visit_of_remembered {value : Value}
    (remembered : progress.memo.lookup expr.text = some value) :
    (visit scope levels expr compute).run progress
      = (conclude scope (recalled expr.text value)).run progress := by
  simp [visit, remembered]

/-- An expression whose value is not remembered is computed, unless it nests too deeply. -/
theorem follows_visit_of_absent {related : Value × Progress → Value → Prop}
    (absent : progress.memo.lookup expr.text = none)
    (computes : ∀ below, Follows .overflow related
      ((remember expr.text (compute below)).run progress) (walk below)) :
    Follows .overflow related ((visit scope levels expr compute).run progress)
      (descend expr levels walk) := by
  by_cases nests : expr.nests
  · cases levels with
    | zero =>
      rw [descend, if_pos nests]
      exact .tooDeep _
    | succ below => simpa [visit, descend, absent, nests] using computes below
  · simpa [visit, descend, absent, nests] using computes levels

/-- An expression that can be written mirrors its walk if it is computed as it is walked. -/
theorem mirrors_visit (readable : expr.Readable) (finite : expr.Finite)
    (walk_eq : ∀ levels, expr.walk scope levels = descend expr levels walk)
    (computes : ∀ below, Mirrors scope (compute below) (walk below)) :
    Mirrors scope (visit scope levels expr compute) (expr.walk scope levels) := by
  intro progress remembers
  cases remembered : progress.memo.lookup expr.text with
  | some value =>
    have follows := remembers.follows readable finite remembered levels
    rw [run_visit_of_remembered remembered]
    generalize expr.walk scope levels = walked at follows ⊢
    cases follows with
    | value same => exact same ▸ mirrors_conclude _ progress remembers
    | tooDeep => exact .tooDeep _
  | none =>
    rw [walk_eq]
    refine follows_visit_of_absent remembered fun below => ?_
    obtain ⟨enough, walks⟩ := exists_descend_eq expr walk below
    rw [← walk_eq] at walks
    exact mirrors_remember readable finite walks (computes below) progress remembers

/-- The whole expression follows its walk if it is computed as it is walked. -/
theorem follows_visit_initial (computes : ∀ below, Mirrors scope (compute below) (walk below)) :
    Follows .overflow (fun found walked => found.1 = walked)
      ((visit scope levels expr compute).run .initial) (descend expr levels walk) := by
  refine follows_visit_of_absent rfl fun below => ?_
  rw [run_remember, ← bind_pure (walk below)]
  refine (computes below .initial scope.remembers_nil).bind ?_
  rintro found walked ⟨same, -⟩
  exact .value same

end Evaluation

namespace Expr

open Evaluation
open Evaluator (Mirrors)

/-- An expression that can be written mirrors its walk. -/
theorem Readable.mirrors {expr : Expr} (readable : expr.Readable) (finite : expr.Finite)
    (scope : Scope) (levels : Nat) :
    Mirrors scope (expr.evaluate scope levels) (expr.walk scope levels) := by
  induction expr generalizing levels with
  | number value span =>
    exact mirrors_visit readable finite (fun _ => rfl) fun below => mirrors_conclude _
  | symbol name span =>
    exact mirrors_visit readable finite (fun _ => rfl) fun below => mirrors_conclude _
  | paren inner span hypothesis =>
    refine mirrors_visit readable finite (fun _ => rfl) fun below => ?_
    exact (hypothesis readable finite below).bind fun value => mirrors_conclude _
  | call function _ argument _ _ hypothesis =>
    refine mirrors_visit readable finite (fun _ => rfl) fun below => ?_
    exact (hypothesis readable.2 finite below).bind fun value => mirrors_conclude _
  | unary op operand span hypothesis =>
    refine mirrors_visit readable finite (fun _ => rfl) fun below => ?_
    exact (hypothesis readable.2 finite below).bind fun value => mirrors_conclude _
  | binary op left right span leftHypothesis rightHypothesis =>
    obtain ⟨-, -, leftReadable, rightReadable⟩ := id readable
    refine mirrors_visit readable finite (fun _ => rfl) fun below => ?_
    refine (leftHypothesis leftReadable finite.left below).bind fun leftValue => ?_
    refine (rightHypothesis rightReadable finite.right below).bind fun rightValue => ?_
    exact mirrors_conclude _
  | derivative wrt body span hypothesis =>
    refine mirrors_visit readable finite (fun _ => rfl) fun below => ?_
    exact (Mirrors.lift (.mapError _)).bind fun derived => mirrors_conclude _
  | indefinite wrt body span hypothesis =>
    refine mirrors_visit readable finite (fun _ => rfl) fun below => ?_
    exact (Mirrors.lift (.mapError _)).bind fun antiderivative => mirrors_conclude _
  | definite => contradiction

/-- A tree of a text that was read: it can be written, or it is one derivative or one integral with
parts that can be written. -/
def Legible : Expr → Prop
  | .derivative _ body _ => body.Readable
  | .indefinite _ body _ => body.Readable
  | .definite _ lower upper body _ => lower.Readable ∧ upper.Readable ∧ body.Readable
  | expr => expr.Readable

/-- A tree that can be written is legible. -/
theorem Readable.legible {expr : Expr} (readable : expr.Readable) : expr.Legible := by
  cases expr with
  | derivative wrt body span => exact readable.2
  | indefinite wrt body span => exact readable.2.2
  | definite => contradiction
  | _ => exact readable

/-- The tree of a text that is one derivative is legible. -/
theorem legible_of_readDerivative? {chars : List Char} {ceiling : Nat} {expr : Expr}
    (reads : readDerivative? chars ceiling = some (.ok expr)) : expr.Legible := by
  obtain ⟨parts, -, result⟩ := Option.bind_eq_some_iff.1 reads
  obtain ⟨body, readsBody, same⟩ := Reader.of_bind_eq_ok (Option.some.inj result)
  obtain rfl := Except.ok.inj same
  exact (readable_of_readRegion readsBody).1

/-- The tree of an integral with bounds is legible. -/
theorem legible_of_readBounded {wrt : Char} {indent chars : List Char} {span : Span}
    {ceiling : Nat} {expr : Expr} (reads : readBounded wrt indent chars span ceiling = .ok expr) :
    expr.Legible := by
  unfold readBounded at reads
  split at reads
  · contradiction
  · obtain ⟨lower, readsLower, readsRest⟩ := Reader.of_bind_eq_ok reads
    obtain ⟨upper, readsUpper, readsRest⟩ := Reader.of_bind_eq_ok readsRest
    obtain ⟨body, readsBody, same⟩ := Reader.of_bind_eq_ok readsRest
    obtain rfl := Except.ok.inj same
    exact ⟨(readable_of_readRegion readsLower).1, (readable_of_readRegion readsUpper).1,
      (readable_of_readRegion readsBody).1⟩

/-- The tree of a text that is one integral is legible. -/
theorem legible_of_readIntegral? {chars : List Char} {ceiling : Nat} {expr : Expr}
    (reads : readIntegral? chars ceiling = some (.ok expr)) : expr.Legible := by
  obtain ⟨parts, -, result⟩ := Option.bind_eq_some_iff.1 reads
  have result := Option.some.inj result
  split at result
  · exact legible_of_readBounded result
  · obtain ⟨body, readsBody, same⟩ := Reader.of_bind_eq_ok result
    obtain rfl := Except.ok.inj same
    exact (readable_of_readRegion readsBody).1

/-- Every tree that is read is legible. -/
theorem legible_of_read {source : String} {ceiling : Nat} {expr : Expr}
    (reads : read source ceiling = .ok expr) : expr.Legible := by
  simp only [read] at reads
  split at reads
  · next isDerivative => exact legible_of_readDerivative? (isDerivative.trans (congrArg some reads))
  · split at reads
    · next isIntegral => exact legible_of_readIntegral? (isIntegral.trans (congrArg some reads))
    · exact (readable_of_readRegion reads).1.legible

/-- An evaluation of a whole expression follows its walk. -/
theorem Legible.follows {expr : Expr} (legible : expr.Legible) (finite : expr.Finite)
    (scope : Scope) (levels : Nat) :
    Follows .overflow (fun found walked => found.1 = walked)
      ((expr.evaluate scope levels).run .initial) (expr.walk scope levels) := by
  cases expr with
  | derivative wrt body span =>
    refine follows_visit_initial fun below => ?_
    exact (Mirrors.lift (.mapError _)).bind fun derived => mirrors_conclude _
  | indefinite wrt body span =>
    refine follows_visit_initial fun below => ?_
    exact (Mirrors.lift (.mapError _)).bind fun antiderivative => mirrors_conclude _
  | definite wrt lower upper body span =>
    obtain ⟨lowerReadable, upperReadable, bodyReadable⟩ := legible
    obtain ⟨boundsFinite, bodyFinite⟩ := List.forall_mem_append.1 finite
    obtain ⟨lowerFinite, upperFinite⟩ := List.forall_mem_append.1 boundsFinite
    refine follows_visit_initial fun below => ?_
    refine (lowerReadable.mirrors lowerFinite scope below).bind fun lowerValue => ?_
    refine (upperReadable.mirrors upperFinite scope below).bind fun upperValue => ?_
    -- Every sample is an evaluation of its own, in a scope that binds the name to the place.
    have samples (place : Float) := (bodyReadable.mirrors bodyFinite (scope.inside wrt place)
      scope.ceiling).alone
    refine (Mirrors.lift (follows_areaBetween samples lowerValue upperValue)).bind fun area => ?_
    exact mirrors_conclude _
  | _ =>
    refine (legible.mirrors finite scope levels .initial scope.remembers_nil).imp ?_
    exact fun found walked keeps => keeps.1

/-- Remembering changes no value: an expression that was read and whose numbers are finite is worth
what a walk without memory finds, if that walk never nests too deeply. Where the walk breaks off, so
does the evaluation. -/
theorem workOut_eq_walk {source : String} {depth : Nat} {expr : Expr}
    (reads : read source depth = .ok expr) (finite : ∀ value ∈ expr.literals, value.isFinite)
    (bindings : Bindings) (ceiling : Nat)
    (shallow : expr.walk ⟨bindings, ceiling, true⟩ ceiling ≠ .error .tooDeep) :
    (Prod.fst <$> expr.workOut bindings ceiling).mapError .overflow
      = expr.walk ⟨bindings, ceiling, true⟩ ceiling := by
  have follows := (legible_of_read reads).follows finite ⟨bindings, ceiling, true⟩ ceiling
  refine Follows.mapError_eq ?_ shallow
  unfold workOut
  generalize (expr.evaluate ⟨bindings, ceiling, true⟩ ceiling).run .initial = found at follows ⊢
  generalize expr.walk ⟨bindings, ceiling, true⟩ ceiling = walked at follows ⊢
  cases follows with
  | value same => exact .value same
  | stopped cause => exact .stopped cause
  | tooDeep => exact .tooDeep _

/-- A sum of a product and the same product written with blanks, which is not walked again. -/
theorem workOut_eq_walk_twice :
    ∃ expr, read "(2*x)+( 2*x )" 1 = .ok expr
      ∧ (Prod.fst <$> expr.workOut Bindings.empty 1).mapError Halt.overflow
        = .ok (.symbolic "((2 * x) + (2 * x))") := by
  have reads : read "(2*x)+( 2*x )" 1 = .ok
      (.binary .plus
        (.paren (.binary .times (.number 2 ⟨1, 2⟩) (.symbol "x" ⟨3, 4⟩) ⟨1, 4⟩) ⟨0, 5⟩)
        (.paren (.binary .times (.number 2 ⟨8, 9⟩) (.symbol "x" ⟨10, 11⟩) ⟨8, 11⟩) ⟨6, 13⟩)
        ⟨0, 13⟩) := by
    rfl
  have finite : ∀ value ∈ ([2, 2] : List Float), value.isFinite := by
    intro value member
    rcases List.mem_cons.1 member with rfl | member
    · rfl
    · obtain rfl := List.mem_singleton.1 member
      rfl
  refine ⟨_, reads, ?_⟩
  rw [workOut_eq_walk reads finite Bindings.empty 1 (by rintro ⟨⟩)]
  rfl

end Expr

end Workings
