import Workings.Proofs.Calculator.Memory
import Workings.Proofs.Calculator.Reach

/-!
# Texts that cannot be read

A text that cannot be read leaves nothing behind but an entry in the log. Whatever a calculator
remembers as an expression or as a worksheet came from a text that was read, and would be read
again, because the ceiling stays as it is. So neither is found for a text that cannot be read, and
a look-up that finds nothing changes nothing but the number of misses.
-/

namespace Workings

/-- The cache with one more miss. -/
def Cache.missed {Content : Type} (cache : Cache Content) : Cache Content :=
  { cache with misses := cache.misses + 1 }

/-- Looking up a key that no entry has finds nothing, and counts as a miss. -/
theorem Cache.get_of_absent {Content : Type} {cache : Cache Content} {key : String}
    (absent : ∀ entry ∈ cache.entries, entry.key ≠ key) (now : Nat) :
    cache.get now key = (none, cache.missed) := by
  have nothing : cache.peek? key = none := by
    cases found : cache.peek? key with
    | none => rfl
    | some entry =>
      obtain ⟨member, isKey⟩ := mem_of_peek? found
      exact absurd isKey (absent entry member)
  simp only [get, nothing, missed]

namespace Calculator

/-- A text that can be read under a ceiling. -/
def Accepted (ceiling : Nat) (source : String) : Prop :=
  ∃ expr, Expr.read source ceiling = .ok expr

/-- What a calculator remembers came from texts that can be read under its ceiling. -/
structure Learned (ceiling : Nat) (calculator : Calculator) : Prop where
  ceiling_eq : calculator.supervisor.ceiling = ceiling
  expressions : calculator.expressions.Every fun source _ => Accepted ceiling source
  worksheets : calculator.worksheets.Every fun key _ =>
    ∃ source, Accepted ceiling source
      ∧ ∃ bindings : Bindings, evaluationKey source bindings.pairs = key

variable {ceiling : Nat} {calculator : Calculator}

/-! ## What is remembered -/

/-- A calculator that remembers nothing has nothing from elsewhere. -/
theorem learned_fresh (settings : Settings) (supervisor : Supervisor) :
    (fresh settings supervisor).Learned supervisor.ceiling where
  ceiling_eq := rfl
  expressions := Cache.every_empty _ _ _
  worksheets := Cache.every_empty _ _ _

/-- What is read can be read, and only such texts are remembered. -/
theorem Learned.read (learned : calculator.Learned ceiling) (now : Nat) (source : String) :
    (∀ expr, (calculator.read now source).1 = .ok expr → Accepted ceiling source)
      ∧ (calculator.read now source).2.Learned ceiling := by
  obtain ⟨ceiling_eq, expressions, worksheets⟩ := learned
  unfold Calculator.read
  dsimp only
  split
  · rename_i expr looked hit
    have accepted := of_lookUp expressions hit
    exact ⟨fun _ _ => accepted, ceiling_eq, every_lookUp expressions hit, worksheets⟩
  · rename_i looked miss
    have kept := every_lookUp expressions miss
    split
    · exact ⟨fun _ isRead => (nomatch isRead), ceiling_eq, kept, worksheets⟩
    · rename_i expr result
      have accepted : Accepted ceiling source := ⟨expr, ceiling_eq ▸ result⟩
      exact ⟨fun _ _ => accepted, ceiling_eq, every_remember kept _ now accepted, worksheets⟩

/-- Searching for formulas remembers neither expressions nor worksheets. -/
theorem Learned.detect (learned : calculator.Learned ceiling) (now : Nat) (source : String) :
    (calculator.detect now source).2.Learned ceiling := by
  obtain ⟨ceiling_eq, expressions, worksheets⟩ := learned
  unfold Calculator.detect
  dsimp only
  split <;> exact ⟨ceiling_eq, expressions, worksheets⟩

/-- A worksheet is remembered only if its text was read. -/
theorem Learned.workOut (learned : calculator.Learned ceiling) (now : Nat) (source : String)
    (bindings : Bindings) : (calculator.workOut now source bindings).2.Learned ceiling := by
  obtain ⟨isRead, afterRead⟩ := learned.read now source
  unfold Calculator.workOut
  generalize calculator.read now source = reading at isRead afterRead
  obtain ⟨fault | expr, between⟩ := reading
  · exact ⟨afterRead.ceiling_eq, afterRead.expressions, afterRead.worksheets⟩
  · have accepted := isRead expr rfl
    have afterSearch := afterRead.detect now source
    dsimp only at afterSearch ⊢
    generalize between.detect now source = detected at afterSearch
    obtain ⟨found, searched⟩ := detected
    obtain ⟨ceiling_eq, expressions, worksheets⟩ := afterSearch
    dsimp only
    split
    · exact ⟨ceiling_eq, expressions, worksheets⟩
    · exact ⟨ceiling_eq, expressions,
        every_remember worksheets searched.settings now ⟨source, accepted, bindings, rfl⟩⟩

/-- Evaluating remembers only what was read. -/
theorem Learned.evaluate (learned : calculator.Learned ceiling) (now : Nat) (source : String)
    (bindings : Bindings) : (calculator.evaluate now source bindings).2.Learned ceiling := by
  unfold Calculator.evaluate
  dsimp only
  split
  · rename_i sheet looked hit
    exact ⟨learned.ceiling_eq, learned.expressions, every_lookUp learned.worksheets hit⟩
  · rename_i looked miss
    have kept : Learned ceiling { calculator with worksheets := looked } :=
      ⟨learned.ceiling_eq, learned.expressions, every_lookUp learned.worksheets miss⟩
    exact kept.workOut now source bindings

/-- Applying a formula remembers only what was read. -/
theorem Learned.apply (learned : calculator.Learned ceiling) (now : Nat) (source name : String) :
    (calculator.apply now source name).2.Learned ceiling := by
  have afterRead := (learned.read now source).2
  unfold Calculator.apply
  generalize calculator.read now source = reading at afterRead
  obtain ⟨fault | expr, between⟩ := reading
  · exact afterRead
  · have afterSearch := afterRead.detect now source
    dsimp only
    split
    · exact afterRead
    · split
      · exact afterSearch
      · split <;> exact afterSearch

/-- Every command remembers only what was read. -/
theorem Learned.perform (learned : calculator.Learned ceiling) (now : Nat) (command : Command) :
    (calculator.perform now command).2.Learned ceiling := by
  cases command with
  | evaluate source bindings | explain source bindings => exact learned.evaluate now source bindings
  | parse source =>
    have afterRead := (learned.read now source).2
    simp only [Calculator.perform]
    generalize calculator.read now source = reading at afterRead
    obtain ⟨fault | expr, after⟩ := reading <;> exact afterRead
  | detect source => exact learned.detect now source
  | apply source name =>
    have applied := learned.apply now source name
    simp only [Calculator.perform]
    generalize calculator.apply now source name = outcome at applied
    obtain ⟨(fault | crash) | text, after⟩ := outcome <;> exact applied
  | enqueue source bindings priority =>
    have kept (backlog : Backlog) : Learned ceiling { calculator with backlog } :=
      ⟨learned.ceiling_eq, learned.expressions, learned.worksheets⟩
    simp only [Calculator.perform, enqueue]
    cases calculator.settings.deferring with
    | false => exact learned
    | true => exact kept _
  | drain =>
    simp only [Calculator.perform, drain]
    split
    · exact learned
    · rename_i request rest pops
      have begun : Learned ceiling { calculator with backlog := rest } :=
        ⟨learned.ceiling_eq, learned.expressions, learned.worksheets⟩
      have evaluated := begun.evaluate now request.expression request.bindings
      exact ⟨evaluated.ceiling_eq, evaluated.expressions, evaluated.worksheets⟩
  | clearCaches => exact ⟨learned.ceiling_eq, Cache.Every.clear _, Cache.Every.clear _⟩
  | validate | check | result | status => exact learned
  | clearBacklog | clearLogs =>
    exact ⟨learned.ceiling_eq, learned.expressions, learned.worksheets⟩

/-- Wherever commands lead, all that is remembered was read. -/
theorem Reaches.learned {settings : Settings} {supervisor : Supervisor}
    {exchanges : List (Command × Reply)}
    (reaches : Reaches (fresh settings supervisor) exchanges calculator) :
    calculator.Learned supervisor.ceiling := by
  induction reaches with
  | start => exact learned_fresh settings supervisor
  | @next _ before _ rewriter now command hypothesis =>
    have employed : (before.employing rewriter).Learned supervisor.ceiling :=
      ⟨hypothesis.ceiling_eq, hypothesis.expressions, hypothesis.worksheets⟩
    exact employed.perform now command

/-! ## What is not found -/

/-- A cache after something was looked up in it in vain. -/
def searched {Content : Type} (settings : Settings) (cache : Cache Content) : Cache Content :=
  if settings.caching then cache.missed else cache

/-- Looking up a key that no entry has finds nothing. -/
theorem lookUp_of_absent {Content : Type} {cache : Cache Content} {key : String}
    (absent : ∀ entry ∈ cache.entries, entry.key ≠ key) (settings : Settings) (now : Nat) :
    lookUp settings cache now key = (none, searched settings cache) := by
  unfold lookUp searched
  split
  · exact Cache.get_of_absent absent now
  · rfl

variable {source : String}

/-- No expression is remembered for a text that cannot be read. -/
theorem Learned.expression_absent (learned : calculator.Learned ceiling)
    (unread : ¬ Accepted ceiling source) :
    ∀ entry ∈ calculator.expressions.entries, entry.key ≠ source := by
  rintro entry member rfl
  exact unread (learned.expressions entry member)

/-- No worksheet is remembered for a text that cannot be read, under any bindings: the key of an
evaluation tells its text. -/
theorem Learned.worksheet_absent (learned : calculator.Learned ceiling)
    (unread : ¬ Accepted ceiling source) (bindings : Bindings) :
    ∀ entry ∈ calculator.worksheets.entries,
      entry.key ≠ evaluationKey source bindings.pairs := by
  intro entry member isKey
  obtain ⟨other, accepted, otherBindings, otherKey⟩ := learned.worksheets entry member
  obtain ⟨rfl, -⟩ := EvaluationKey.evaluationKey_injective (otherKey.trans isKey)
  exact unread accepted

/-- The calculator after it looked in vain for an expression. -/
def missedExpression (calculator : Calculator) : Calculator :=
  { calculator with expressions := searched calculator.settings calculator.expressions }

/-- The calculator after it looked in vain for a worksheet. -/
def missedWorksheet (calculator : Calculator) : Calculator :=
  { calculator with worksheets := searched calculator.settings calculator.worksheets }

/-- The calculator after it logged a failure. -/
def withFailure (calculator : Calculator) (message : String) : Calculator :=
  { calculator with
    logs := { calculator.logs with
      errors := calculator.logs.errors ++ [Logs.errorEntry message] } }

variable {fault : Fault}

/-- Reading a text that cannot be read answers the fault. -/
theorem Learned.read_of_refused (learned : calculator.Learned ceiling)
    (refused : Expr.read source ceiling = .error fault) (now : Nat) :
    calculator.read now source = (.error fault, calculator.missedExpression) := by
  have unread : ¬ Accepted ceiling source := by
    rintro ⟨expr, isRead⟩
    rw [refused] at isRead
    contradiction
  have refused' : calculator.supervisor.read source = .error fault := by
    rw [Supervisor.read, learned.ceiling_eq, refused]
  unfold Calculator.read
  simp only [lookUp_of_absent (learned.expression_absent unread), refused', missedExpression]

/-- Working out a text that cannot be read logs the fault. -/
theorem Learned.workOut_of_refused (learned : calculator.Learned ceiling)
    (refused : Expr.read source ceiling = .error fault) (now : Nat) (bindings : Bindings) :
    calculator.workOut now source bindings
      = (.failed source fault.message,
          calculator.missedExpression.withFailure fault.message) := by
  rw [Calculator.workOut, learned.read_of_refused refused]
  simp [handOut, Logs.file, Worksheet.failure?, Worksheet.warnings, withFailure]

/-- Evaluating a text that cannot be read logs the fault. -/
theorem Learned.evaluate_of_refused (learned : calculator.Learned ceiling)
    (refused : Expr.read source ceiling = .error fault) (now : Nat) (bindings : Bindings) :
    calculator.evaluate now source bindings
      = (.failed source fault.message,
          calculator.missedWorksheet.missedExpression.withFailure fault.message) := by
  have unread : ¬ Accepted ceiling source := by
    rintro ⟨expr, isRead⟩
    rw [refused] at isRead
    contradiction
  have looked : calculator.missedWorksheet.Learned ceiling := by
    have done := lookUp_of_absent (learned.worksheet_absent unread bindings) calculator.settings now
    exact ⟨learned.ceiling_eq, learned.expressions, every_lookUp learned.worksheets done⟩
  unfold Calculator.evaluate
  simp only [lookUp_of_absent (learned.worksheet_absent unread bindings)]
  exact looked.workOut_of_refused refused now bindings

/-- Applying a formula to a text that cannot be read answers the fault. -/
theorem Learned.apply_of_refused (learned : calculator.Learned ceiling)
    (refused : Expr.read source ceiling = .error fault) (now : Nat) (name : String) :
    calculator.apply now source name = (.error (.refused fault), calculator.missedExpression) := by
  rw [Calculator.apply, learned.read_of_refused refused]

/-- A text that cannot be read leaves no trace but the log, wherever commands have led and whatever
the rewriter does. Reading it and applying a formula to it answer the fault, and evaluating it
answers a worksheet that failed with its message. Of the calculator nothing changes but the misses
of the caches that were asked, and an evaluation logs the failure. -/
theorem refusal_leaves_no_trace {settings : Settings} {supervisor : Supervisor}
    {exchanges : List (Command × Reply)}
    (reaches : Reaches (fresh settings supervisor) exchanges calculator) (rewriter : Rewriter)
    (now : Nat) (refused : Expr.read source supervisor.ceiling = .error fault) :
    let asked := calculator.employing rewriter
    asked.read now source = (.error fault, asked.missedExpression)
      ∧ (∀ name, asked.apply now source name
          = (.error (.refused fault), asked.missedExpression))
      ∧ ∀ bindings, asked.evaluate now source bindings
          = (.failed source fault.message,
              asked.missedWorksheet.missedExpression.withFailure fault.message) := by
  intro asked
  have before := reaches.learned
  have learned : asked.Learned supervisor.ceiling :=
    ⟨before.ceiling_eq, before.expressions, before.worksheets⟩
  exact ⟨learned.read_of_refused refused now, learned.apply_of_refused refused now,
    learned.evaluate_of_refused refused now⟩

/-- A text with a character that begins no token, between texts that were worked out, were put off
or broke off. -/
theorem refusal_leaves_no_trace_dollar :
    let first := fresh .standard (.standard .identity 256)
    let commands := [(0, Command.evaluate "1+1" .empty), (1, Command.evaluate "1/0" .empty),
      (2, Command.enqueue "$" .empty 3), (3, Command.drain), (4, Command.parse "x")]
    let asked := (first.run commands).2.employing .identity
    Expr.read "$" 256 = .error (.within ⟨0, 1⟩ (.unknownCharacter '$'))
      ∧ asked.evaluate 5 "$" .empty
        = (.failed "$" (Fault.within ⟨0, 1⟩ (.unknownCharacter '$')).message,
            asked.missedWorksheet.missedExpression.withFailure
              (Fault.within ⟨0, 1⟩ (.unknownCharacter '$')).message) := by
  intro first commands asked
  have refused : Expr.read "$" 256 = .error (.within ⟨0, 1⟩ (.unknownCharacter '$')) := by rfl
  exact ⟨refused, (refusal_leaves_no_trace (reaches_run _ _) .identity 5 refused).2.2 .empty⟩

end Calculator

end Workings
