import Workings.Proofs.Calculator.Memory
import Workings.Proofs.Evaluation.Ceiling
import Workings.Proofs.Evaluation.FreeNames

/-!
# Free names on worksheets

Whatever happened before, the answer to an expression in which no derivative and no integral is
taken is a text with every free name that is not bound, and it is symbolic if the name has a letter.
There are names without a letter, and a number beyond the reach of doubles is written like a name:
of such names this cannot be said.
-/

namespace Workings

/-- A tree in which no derivative and no integral is taken was read by the grammar. -/
theorem Expr.IsArithmetic.readRegion_of_read {source : String} {ceiling : Nat} {expr : Expr}
    (arithmetic : expr.IsArithmetic) (reads : read source ceiling = .ok expr) :
    readRegion 0 source.toList ceiling = .ok expr := by
  simp only [read] at reads
  split at reads
  · next isDerivative =>
    obtain ⟨wrt, text, body, span, -, -, rfl⟩ :=
      of_readDerivative (isDerivative.trans (congrArg some reads))
    contradiction
  · split at reads
    · next isIntegral =>
      obtain ⟨letter, -, ⟨text, body, span, -, -, rfl⟩ | ⟨lowerText, upperText, bodyText, lower,
        upper, body, span, -, -, -, rfl⟩⟩ :=
        of_readIntegral (isIntegral.trans (congrArg some reads))
      · contradiction
      · contradiction
    · exact reads

/-- A worksheet whose answer is no number but a text with the name in it, which is symbolic if the
name has a letter. -/
structure Worksheet.Tells (name : String) (sheet : Worksheet) : Prop where
  finished : sheet.failure? = none
  kind_ne : sheet.kind ≠ .numeric
  infix_answer : name.toList <:+: sheet.answer.toList
  kind_eq : name.toList.any Text.isAlphabetic → sheet.kind = .symbolic

/-- A worksheet tells what its value shows. -/
theorem Worksheet.tells_finished {name : String} {value : Value} (shown : value.Shows name)
    (expression : String) (findings : List Finding) (lines : List Line) (warnings : List String) :
    (finished expression value findings lines warnings).Tells name := by
  obtain ⟨whole, rfl, within⟩ := shown
  refine ⟨rfl, ?_, within, ?_⟩
  · unfold kind Value.kind
    dsimp only
    split <;> simp
  · intro hasLetter
    obtain ⟨char, member, letter⟩ := List.any_eq_true.1 hasLetter
    exact if_pos (List.any_eq_true.2 ⟨char, within.subset member, letter⟩)

/-- A worksheet that is handed out again tells the same. -/
theorem Worksheet.Tells.recalled {name : String} {sheet : Worksheet} (tells : sheet.Tells name)
    (asked : String) : (sheet.recalled asked).Tells name := by
  obtain ⟨finished, kind_ne, infix_answer, kind_eq⟩ := tells
  cases sheet with
  | failed => contradiction
  | finished => exact ⟨rfl, kind_ne, infix_answer, kind_eq⟩

section Undisturbed

variable {supervisor : Supervisor}

/-- The worksheet of an expression tells a free name that is not bound, whatever is found in it. -/
theorem Supervisor.evaluateRead_tells (undisturbed : supervisor.rewriter = .identity)
    {source : String} {expr : Expr} (reads : supervisor.read source = .ok expr)
    (arithmetic : expr.IsArithmetic) {bindings : Bindings} {name : String}
    (free : name ∈ expr.freeNames) (unbound : bindings.get? name = none)
    (unwritten : name ∉ expr.literals.map Number.text) (findings : List Finding) :
    ∃ sheet, supervisor.evaluateRead source expr bindings findings = .ok sheet
      ∧ sheet.Tells name := by
  have region := arithmetic.readRegion_of_read reads
  obtain ⟨value, trace, worksOut, shown⟩ := arithmetic.workOut_shows_free
    (Expr.discloses_of_readRegion region unwritten) free unbound
    (Expr.descent_le_of_readRegion region)
  have rewrites := rewrite_of_identity undisturbed expr findings
  exact ⟨_, evaluateRead_eq_ok_iff.2 ⟨_, _, _, rewrites, worksOut, rfl⟩,
    Worksheet.tells_finished shown _ _ _ _⟩

/-- Whatever happened before, the answer to an expression in which no derivative and no integral is
taken is a text with every free name that is not bound, and it is symbolic if one of these names has
a letter. A name is excepted if a number of the expression is written like it. -/
theorem Calculator.evaluate_tells_free (undisturbed : supervisor.rewriter = .identity)
    {source : String} {expr : Expr} (reads : supervisor.read source = .ok expr)
    (arithmetic : expr.IsArithmetic) {bindings : Bindings} {name : String}
    (free : name ∈ expr.freeNames) (unbound : bindings.get? name = none)
    (unwritten : name ∉ expr.literals.map Number.text) (settings : Settings)
    (history : List (Nat × Command)) (now : Nat) :
    (((fresh settings supervisor).run history).2.evaluate now source bindings).1.Tells name
      ∧ ∃ sheet, supervisor.evaluate source bindings = .ok sheet ∧ sheet.Tells name := by
  have outcome (findings : List Finding) :=
    supervisor.evaluateRead_tells undisturbed reads arithmetic free unbound unwritten findings
  have tells : (supervisor.sheet source bindings).Tells name := by
    obtain ⟨sheet, evaluates, tells⟩ := outcome (supervisor.detector.detect source)
    simpa only [Supervisor.sheet, reads, evaluates] using tells
  constructor
  · have faithful := (faithful_fresh settings supervisor).run history
    rcases faithful.evaluate_fst now source bindings with same | same
    · rw [same]
      exact tells
    · rw [same]
      exact tells.recalled source
  · simp only [Supervisor.evaluate, reads]
    exact outcome _

/-- The root of a sum with a name, divided by nought and asked for twice. -/
theorem Calculator.evaluate_tells_free_root :
    let calculator := fresh .standard (.standard .identity 256)
    let first := (calculator.run [(0, .evaluate "sqrt(2+x)/0" .empty)]).2
    (first.evaluate 1 "sqrt(2+x)/0" .empty).1.Tells "x" := by
  have reads : (Supervisor.standard .identity 256).read "sqrt(2+x)/0" = .ok
      (.binary .dividedBy
        (.call "sqrt" ⟨0, 4⟩ (.binary .plus (.number 2 ⟨5, 6⟩) (.symbol "x" ⟨7, 8⟩) ⟨5, 8⟩) ⟨4, 9⟩
          ⟨0, 9⟩)
        (.number 0 ⟨10, 11⟩) ⟨0, 11⟩) := by
    rfl
  have free : "x" ∈ (["x"] : List String) := List.mem_singleton_self _
  have unwritten : "x" ∉ [(2 : Float), 0].map Number.text := by decide +kernel
  exact (Calculator.evaluate_tells_free rfl reads ⟨⟨trivial, trivial⟩, trivial⟩ free rfl unwritten
    .standard _ 1).1

end Undisturbed

section Exceptions

/-- The name of an underscore has no letter, so an answer with nothing but this name is not called
symbolic. -/
theorem Calculator.evaluate_underscore :
    let supervisor := Supervisor.ofCatalog ⟨[]⟩ .identity 256
    ∃ expr, supervisor.read "_" = .ok expr ∧ expr.IsArithmetic ∧ "_" ∈ expr.freeNames
      ∧ Bindings.empty.get? "_" = none
      ∧ ((fresh .standard supervisor).evaluate 0 "_" .empty).1.kind = .mixed := by
  intro supervisor
  refine ⟨.symbol "_" ⟨0, 1⟩, rfl, trivial, List.mem_singleton_self _, rfl, ?_⟩
  decide +kernel

/-- The sum of the quotients by a number and by a name that are written alike: what is remembered of
the number is recalled for the name. -/
theorem Expr.workOut_written_alike :
    let number : Expr := .binary .dividedBy (.number 1 nowhere) (.number (1 / 0) nowhere) nowhere
    let name : Expr := .binary .dividedBy (.number 2 nowhere) (.symbol "inf" nowhere) nowhere
    Number.text (1 / 0) = "inf"
      ∧ ((Expr.binary .plus number name nowhere).workOut .empty 256).map (fun found => found.1.text)
        = .ok "0" := by
  decide +kernel

end Exceptions

end Workings
