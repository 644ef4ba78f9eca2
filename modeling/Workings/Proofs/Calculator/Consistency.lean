import Workings.Proofs.Calculator.Memory
import Workings.Proofs.Calculator.Reach
import Workings.Proofs.Evaluation.Trace

/-!
# Worksheets tell one story

The answer of a worksheet is the result of its last line, and what a worksheet says of its answer is
what its lines say. A worksheet that is remembered keeps this when it is handed out again with one
more line. A worksheet that failed has nothing but the reason. It makes no difference what tree the
rewriter makes of an expression, or whether it breaks off.
-/

namespace Workings

/-- No other operation is called an error. -/
theorem Operation.tag_eq_error {operation : Operation} :
    operation.tag = "error" ↔ operation = .error := by
  constructor
  · intro called
    cases operation with
    | error => rfl
    | arithmetic op => cases op <;> contradiction
    | application function => cases function <;> contradiction
    | _ => contradiction
  · rintro rfl
    rfl

/-- The numbers are the values of the numeric kind. -/
theorem Value.kind_eq_numeric {value : Value} : value.kind = .numeric ↔ value.isNumeric = true := by
  cases value with
  | number => simp [kind, isNumeric]
  | symbolic text =>
    simp only [kind, isNumeric]
    split <;> simp

namespace Worksheet

/-- What a worksheet without a value says. -/
structure Refuses (sheet : Worksheet) : Prop where
  reason : ∃ message, sheet.failure? = some message
  answer : sheet.answer = "ERROR"
  kind : sheet.kind = .symbolic
  inexact : sheet.isExact = false
  noLines : sheet.lines = []
  noFindings : sheet.findings = []

/-- What a worksheet with a value says. -/
structure Answers (sheet : Worksheet) : Prop where
  noReason : sheet.failure? = none
  /-- The lines are numbered from one. -/
  numbered : sheet.lines.map (fun line => line.number) = List.range' 1 sheet.lines.length
  /-- The last line has the answer. -/
  ends : ∃ line, sheet.lines.getLast? = some line ∧ line.result = sheet.answer
    ∧ (line.isNumeric = true ↔ sheet.kind = .numeric)
  exact_iff : sheet.isExact = true ↔ ∀ line ∈ sheet.lines, line.operation.tag ≠ "error"

/-- A worksheet that says either what one without a value says, or what one with a value says. -/
def Consistent (sheet : Worksheet) : Prop :=
  sheet.Refuses ∨ sheet.Answers

/-- A worksheet that failed says why. -/
theorem refuses_failed (expression message : String) : (failed expression message).Refuses :=
  ⟨⟨message, rfl⟩, rfl, rfl, rfl, rfl, rfl⟩

/-- A worksheet with a value is exact if none of its lines is called an error. -/
theorem isExact_finished {expression : String} {value : Value} {findings : List Finding}
    {lines : List Line} {warnings : List String} :
    (finished expression value findings lines warnings).isExact = true
      ↔ ∀ line ∈ lines, line.operation.tag ≠ "error" := by
  simp [isExact, Step.isError, Operation.tag_eq_error]

/-- What a worksheet keeps of another one: all that it says of the expression and its answer, and
every line. -/
structure Retells (first again : Worksheet) : Prop where
  expression : again.expression = first.expression
  answer : again.answer = first.answer
  kind : again.kind = first.kind
  exactness : again.isExact = first.isExact
  reason : again.failure? = first.failure?
  findings : again.findings = first.findings
  warnings : again.warnings = first.warnings
  lines : first.lines <+: again.lines

/-- Handing a worksheet out again changes nothing that was found out before: the line that says so
is no error. -/
theorem retells_recalled (sheet : Worksheet) (asked : String) :
    sheet.Retells (sheet.recalled asked) := by
  cases sheet with
  | failed => exact ⟨rfl, rfl, rfl, rfl, rfl, rfl, rfl, List.prefix_rfl⟩
  | finished expression value findings lines warnings =>
    have exactness : (lines ++ [recallLine asked value lines]).all (fun line => !line.isError)
        = lines.all fun line => !line.isError := by
      simp [recallLine, Step.isError]
    exact ⟨rfl, rfl, rfl, exactness, rfl, rfl, rfl, List.prefix_append _ _⟩

/-- A worksheet that is handed out again says the same in one more line. -/
theorem Answers.recalled {sheet : Worksheet} (answers : sheet.Answers) (asked : String) :
    (sheet.recalled asked).Answers := by
  have noReason := (sheet.retells_recalled asked).reason.trans answers.noReason
  cases sheet with
  | failed => exact nomatch answers.noReason
  | finished expression value findings lines warnings =>
    refine ⟨noReason, ?_, ⟨recallLine asked value lines, ?_, rfl, Value.kind_eq_numeric.symm⟩,
      isExact_finished⟩
    · have numbered : lines.map (fun line => line.number) = List.range' 1 lines.length :=
        answers.numbered
      simp only [Worksheet.recalled, Worksheet.lines, List.map_append, numbered,
        List.length_append, List.map_singleton, List.length_singleton, List.range'_1_concat,
        recallLine, Nat.add_comm 1]
    · exact List.getLast?_concat

end Worksheet

open Evaluation in
/-- The worksheet of an expression that was worked out has its trace on its lines, and its value for
an answer. -/
theorem Supervisor.answers_of_evaluateRead {supervisor : Supervisor} {source : String} {expr : Expr}
    {bindings : Bindings} {findings : List Finding} {sheet : Worksheet}
    (outcome : supervisor.evaluateRead source expr bindings findings = .ok sheet) :
    sheet.Answers := by
  obtain ⟨rewritten, value, trace, -, worksOut, rfl⟩ := evaluateRead_eq_ok_iff.1 outcome
  obtain ⟨after, rfl, course⟩ := Expr.course_of_workOut worksOut
  obtain ⟨step, isLast, result, isNumeric⟩ := course.ends rfl
  have counted : Counted after := course.counted rfl
  refine ⟨rfl, ?_, ⟨supervisor.annotate step, ?_, result, ?_⟩, Worksheet.isExact_finished⟩
  · simpa [Worksheet.lines, annotate, Function.comp_def, Counted] using counted
  · simp [Worksheet.lines, isLast]
  · exact (Bool.eq_iff_iff.1 isNumeric).trans Value.kind_eq_numeric.symm

namespace Calculator

/-- Everything that is remembered as a worksheet has a value and says so. -/
def Truthful (calculator : Calculator) : Prop :=
  calculator.worksheets.Every fun _ sheet => sheet.Answers

/-- What spares the worksheets keeps what they say. -/
theorem Truthful.spares {before after : Calculator} (truthful : before.Truthful)
    (spares : before.Spares after) : after.Truthful := by
  unfold Truthful
  rw [spares.worksheets]
  exact truthful

variable {calculator : Calculator} {now : Nat}

/-- An evaluation that is served from memory hands out what is remembered of it. -/
theorem evaluate_retells {source : String} {bindings : Bindings}
    (served : calculator.serves now source bindings) :
    ∃ sheet, (lookUp calculator.settings calculator.worksheets now
        (evaluationKey source bindings.pairs)).1 = some sheet
      ∧ sheet.Retells (calculator.evaluate now source bindings).1 := by
  unfold serves at served
  unfold evaluate
  dsimp only
  generalize lookUp calculator.settings calculator.worksheets now
    (evaluationKey source bindings.pairs) = looked at *
  obtain ⟨_ | sheet, worksheets⟩ := looked
  · contradiction
  · exact ⟨sheet, rfl, sheet.retells_recalled source⟩

/-- The worksheet of an evaluation is consistent, and so is what is remembered of it. -/
theorem Outcome.consistent {source : String} {bindings : Bindings} {sheet : Worksheet}
    {after : Calculator} (outcome : calculator.Outcome now source bindings sheet after)
    (truthful : calculator.Truthful) : sheet.Consistent ∧ after.Truthful := by
  cases outcome with
  | recalled hit =>
    have answers := of_lookUp truthful hit
    exact ⟨.inr (answers.recalled source), every_lookUp truthful hit⟩
  | failed miss spares =>
    have looked : Truthful { calculator with worksheets := _ } := every_lookUp truthful miss
    exact ⟨.inl (Worksheet.refuses_failed _ _), looked.spares spares⟩
  | @finished worksheets between _ _ _ _ miss spares worksOut remembers =>
    have answers := Supervisor.answers_of_evaluateRead worksOut
    have remembered (key : String) : Truthful
        { between with worksheets := remember calculator.settings worksheets now key sheet } :=
      every_remember (every_lookUp truthful miss) calculator.settings now answers
    exact ⟨.inr answers, (remembered _).spares remembers⟩

/-- Every command keeps what the remembered worksheets say. -/
theorem Truthful.perform (truthful : calculator.Truthful) (now : Nat) (command : Command) :
    (calculator.perform now command).2.Truthful := by
  cases command with
  | evaluate source bindings | explain source bindings =>
    exact ((calculator.outcome_evaluate now source bindings).consistent truthful).2
  | enqueue source bindings priority =>
    simp only [Calculator.perform, enqueue]
    cases calculator.settings.deferring <;> exact truthful
  | drain =>
    cases pops : calculator.backlog.pop? with
    | none =>
      simp only [Calculator.perform, drain, pops]
      exact truthful
    | some popped =>
      obtain ⟨sheet, between, outcome, drained⟩ := calculator.drain_of_pop now pops
      simp only [Calculator.perform, drained]
      exact (outcome.consistent truthful).2
  | clearCaches => exact Cache.Every.clear _
  | clearBacklog => exact truthful
  | _ => exact truthful.spares (calculator.spares_perform now rfl)

/-- Wherever commands lead, the remembered worksheets say what they are. -/
theorem Reaches.truthful {settings : Settings} {supervisor : Supervisor}
    {exchanges : List (Command × Reply)}
    (reaches : Reaches (fresh settings supervisor) exchanges calculator) : calculator.Truthful := by
  induction reaches with
  | start => exact Cache.every_empty _ _ _
  | @next _ before _ rewriter now command hypothesis =>
    have kept : (before.employing rewriter).Truthful := hypothesis
    exact kept.perform now command

/-- Every evaluation has a consistent worksheet, wherever commands have led, whatever tree the
rewriter makes, and whether it breaks off. -/
theorem evaluate_consistent {settings : Settings} {supervisor : Supervisor}
    {exchanges : List (Command × Reply)}
    (reaches : Reaches (fresh settings supervisor) exchanges calculator) (rewriter : Rewriter)
    (now : Nat) (source : String) (bindings : Bindings) :
    ((calculator.employing rewriter).evaluate now source bindings).1.Consistent :=
  (((calculator.employing rewriter).outcome_evaluate now source bindings).consistent
    reaches.truthful).1

/-- A worksheet that broke off in the rewriter, once a worksheet with an error on it was handed out
again. -/
theorem evaluate_consistent_twice :
    let first := fresh .standard (.standard .identity 256)
    let commands := [(0, Command.evaluate "1/0" .empty), (1, Command.evaluate "1/0" .empty)]
    let breaking : Rewriter := fun _ _ _ => .error (.rewriter none)
    (((first.run commands).2.employing breaking).evaluate 2 "(a+b)^2" .empty).1.Consistent :=
  evaluate_consistent (reaches_run _ _) _ _ _ _

end Calculator

end Workings
