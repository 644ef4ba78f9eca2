import Mathlib.Data.List.DropRight
import Workings.Proofs.Calculator.Consistency
import Workings.Proofs.Calculator.Transparency

/-!
# What is logged

The worksheets that a calculator handed out since its logs were last cleared tell what is in the
logs: the reason of every one that failed, and the warnings of every one that was worked out. A
worksheet that is served from memory has not failed, and its warnings are not logged again. A
command that hands out no worksheet leaves the logs as they are.
-/

namespace Workings

namespace Logs

/-- Something that the logs take note of. -/
inductive Event where
  /-- A worksheet was handed out, served from memory or not. -/
  | handedOut (sheet : Worksheet) (served : Bool)
  | cleared

namespace Event

/-- Whether the logs were cleared. -/
@[simp] def isCleared : Event → Bool
  | .handedOut _ _ => false
  | .cleared => true

/-- Why the worksheet failed that was handed out. -/
@[simp] def failure? : Event → Option String
  | .handedOut sheet _ => sheet.failure?
  | .cleared => none

/-- The warnings on a worksheet that has not failed and was not served from memory. -/
@[simp] def warnings : Event → List String
  | .handedOut sheet served => if sheet.failure?.isNone && !served then sheet.warnings else []
  | .cleared => []

end Event

/-- What the logs took note of, the latest at the end. -/
abbrev History := List Event

/-- What happened since the logs were last cleared. -/
def History.current (history : History) : History :=
  history.rtakeWhile fun event => !event.isCleared

/-- The logs have an entry for every worksheet that failed since they were last cleared, and all
warnings on those that were worked out since then, in the order in which they were handed out. -/
structure Tell (logs : Logs) (history : History) : Prop where
  errors : logs.errors = (history.current.filterMap Event.failure?).map errorEntry
  warnings : logs.warnings = history.current.flatMap Event.warnings

/-- What the logs go through, and what they take note of then. -/
inductive Step (logs : Logs) : Option Event → Logs → Prop where
  | idle : Step logs none logs
  | served {sheet : Worksheet} (finished : sheet.failure? = none) :
      Step logs (some (.handedOut sheet true)) logs
  | workedOut (sheet : Worksheet) : Step logs (some (.handedOut sheet false)) (logs.file sheet)
  | cleared : Step logs (some .cleared) .empty

variable {logs after : Logs} {history : History}

/-- Empty logs tell that nothing happened. -/
theorem tell_empty : empty.Tell [] :=
  ⟨rfl, rfl⟩

/-- What happened since the logs were last cleared goes on until they are cleared again. -/
@[simp] theorem History.current_concat (event : Event) :
    current (history ++ [event])
      = if event.isCleared then [] else history.current ++ [event] := by
  cases event <;> simp [current]

/-- Every step of the logs is told. -/
theorem Tell.step (tell : logs.Tell history) {event? : Option Event}
    (step : logs.Step event? after) : after.Tell (history ++ event?.toList) := by
  obtain ⟨errors, warnings⟩ := tell
  cases step with
  | idle => exact ⟨by simpa using errors, by simpa using warnings⟩
  | served finished => exact ⟨by simp [errors, finished], by simp [warnings]⟩
  | workedOut sheet =>
    cases sheet <;> constructor <;>
      simp [file, errors, warnings, Worksheet.failure?, Worksheet.warnings]
  | cleared => constructor <;> simp [empty]

end Logs

namespace Calculator

/-- The worksheet that a command hands out. An explanation says of it nothing but the answer and the
steps. -/
def handout? (calculator : Calculator) (now : Nat) : Command → Option Worksheet
  | .evaluate source bindings | .explain source bindings =>
    some (calculator.evaluate now source bindings).1
  | .drain => (calculator.drain now).1.map Prod.snd
  | _ => none

/-- What a command does that the logs take note of. -/
def event? (calculator : Calculator) (now : Nat) : Command → Option Logs.Event
  | .clearLogs => some .cleared
  | command =>
    (calculator.handout? now command).map
      (.handedOut · (calculator.servesCommand now command))

/-- What commands do that the logs take note of. -/
def chronicle (calculator : Calculator) : List (Nat × Command) → Logs.History
  | [] => []
  | (now, command) :: rest =>
    (calculator.event? now command).toList ++ (calculator.perform now command).2.chronicle rest

/-- Whether a command neither hands out a worksheet nor clears the logs. -/
def Command.isSilent : Command → Bool
  | .evaluate _ _ | .explain _ _ | .drain | .clearLogs => false
  | _ => true

/-! ## What a command does to the logs -/

section Commands

variable (calculator : Calculator) (now : Nat)

/-- Reading logs nothing. -/
theorem logs_read (source : String) : (calculator.read now source).2.logs = calculator.logs := by
  unfold read
  dsimp only
  split
  · rfl
  · split <;> rfl

/-- Searching logs nothing. -/
theorem logs_detect (source : String) :
    (calculator.detect now source).2.logs = calculator.logs := by
  unfold detect
  dsimp only
  split <;> rfl

/-- Applying a formula logs nothing, even if the rewriter breaks off. -/
theorem logs_apply (source name : String) :
    (calculator.apply now source name).2.logs = calculator.logs := by
  have reading := calculator.logs_read now source
  unfold apply
  generalize calculator.read now source = read at reading
  obtain ⟨fault | expr, between⟩ := read
  · exact reading
  · dsimp only
    cases between.supervisor.catalog.named? name with
    | none => exact reading
    | some formula =>
      have searching := (between.logs_detect now source).trans reading
      dsimp only
      split
      · exact searching
      · split <;> exact searching

/-- What is worked out is logged, whether it is a value, a fault or a crash. -/
theorem logs_workOut (source : String) (bindings : Bindings) :
    (calculator.workOut now source bindings).2.logs
      = calculator.logs.file (calculator.workOut now source bindings).1 := by
  have reading := calculator.logs_read now source
  unfold workOut
  generalize calculator.read now source = read at reading
  obtain ⟨fault | expr, between⟩ := read
  · exact congrArg (Logs.file · _) reading
  · have searching := (between.logs_detect now source).trans reading
    dsimp only
    generalize between.detect now source = detected at searching
    obtain ⟨found, searched⟩ := detected
    dsimp only
    split <;> exact congrArg (Logs.file · _) searching

/-- A silent command logs nothing. -/
theorem logs_perform {command : Command} (silent : command.isSilent) :
    (calculator.perform now command).2.logs = calculator.logs := by
  cases command with
  | parse source =>
    have reading := calculator.logs_read now source
    simp only [perform]
    generalize calculator.read now source = read at reading
    obtain ⟨fault | expr, after⟩ := read <;> exact reading
  | detect source => exact calculator.logs_detect now source
  | apply source name =>
    have applying := calculator.logs_apply now source name
    simp only [perform]
    generalize calculator.apply now source name = applied at applying
    obtain ⟨(fault | crash) | text, after⟩ := applied <;> exact applying
  | enqueue source bindings priority =>
    simp only [perform, enqueue]
    cases calculator.settings.deferring <;> rfl
  | validate | check | result | status | clearBacklog | clearCaches => rfl
  | _ => contradiction

variable {calculator}

/-- A worksheet that is handed out is logged, unless it is served from memory. -/
theorem Truthful.step_evaluate (truthful : calculator.Truthful) (source : String)
    (bindings : Bindings) :
    calculator.logs.Step
      (some (.handedOut (calculator.evaluate now source bindings).1
        (calculator.serves now source bindings)))
      (calculator.evaluate now source bindings).2.logs := by
  unfold evaluate serves
  dsimp only
  generalize looked : lookUp calculator.settings calculator.worksheets now
    (evaluationKey source bindings.pairs) = found
  obtain ⟨_ | sheet, worksheets⟩ := found
  · have logged := logs_workOut { calculator with worksheets } now source bindings
    dsimp only
    rw [logged]
    exact .workedOut _
  · -- What is remembered has not failed, so that serving it does not leave out a failure.
    have answers := (of_lookUp truthful looked).recalled source
    exact .served answers.noReason

/-- What a command does to the logs can be told from what it hands out. -/
theorem Truthful.step_perform (truthful : calculator.Truthful) (command : Command) :
    calculator.logs.Step (calculator.event? now command)
      (calculator.perform now command).2.logs := by
  cases command with
  | evaluate source bindings | explain source bindings =>
    exact truthful.step_evaluate now source bindings
  | drain =>
    cases pops : calculator.backlog.pop? with
    | none =>
      simp only [event?, handout?, Calculator.perform, drain, pops]
      exact .idle
    | some popped =>
      obtain ⟨request, backlog⟩ := popped
      have taken : Truthful { calculator with backlog } := truthful
      simp only [event?, handout?, servesCommand, Calculator.perform, drain, pops]
      exact taken.step_evaluate now request.expression request.bindings
  | clearLogs => exact .cleared
  | _ =>
    rw [calculator.logs_perform now rfl]
    exact .idle

end Commands

/-! ## What commands do to the logs -/

variable {calculator : Calculator}

/-- The logs tell what commands do, beside what they told before. -/
theorem Truthful.tell_run (truthful : calculator.Truthful) {history : Logs.History}
    (tell : calculator.logs.Tell history) (commands : List (Nat × Command)) :
    (calculator.run commands).2.logs.Tell (history ++ calculator.chronicle commands) := by
  -- What happened before is kept in front of what the commands do, since warnings and failures that
  -- were logged before them stay until the logs are cleared.
  induction commands generalizing calculator history with
  | nil => simpa [Calculator.run, chronicle] using tell
  | cons entry rest hypothesis =>
    obtain ⟨now, command⟩ := entry
    have further := hypothesis (truthful.perform now command)
      (tell.step (truthful.step_perform now command))
    rwa [List.append_assoc] at further

/-- Wherever commands lead, the logs tell exactly which worksheets were handed out since the logs
were last cleared: they have the reason of each one that failed, and the warnings on each one that
was worked out and not served from memory. No other command changes them. -/
theorem logs_tell (settings : Settings) (supervisor : Supervisor)
    (commands : List (Nat × Command)) :
    let first := fresh settings supervisor
    let left := (first.run commands).2
    left.logs.Tell (first.chronicle commands)
      ∧ ∀ (now : Nat) (command : Command), command.isSilent →
        (left.perform now command).2.logs = left.logs := by
  intro first left
  have truthful : first.Truthful := Cache.every_empty _ _ _
  exact ⟨truthful.tell_run Logs.tell_empty commands, fun now command => left.logs_perform now⟩

/-- A worksheet with an advice that is handed out twice, a text that cannot be read and is drained,
and a rewriter that breaks off. -/
theorem logs_tell_breaking :
    let supervisor := Supervisor.standard (fun _ _ _ => .error (.rewriter none)) 256
    let first := fresh .standard supervisor
    let commands := [(0, Command.evaluate "0/0" .empty), (1, .evaluate "0/0" .empty),
      (2, .enqueue "$" .empty 3), (3, .drain), (4, .explain "(a+b)^2" .empty)]
    let left := (first.run commands).2
    left.logs.Tell (first.chronicle commands)
      ∧ Command.isSilent (.apply "(a+b)^2" "Perfect Square (a+b)²")
      ∧ (left.perform 5 (.apply "(a+b)^2" "Perfect Square (a+b)²")).2.logs = left.logs := by
  intro supervisor first commands
  -- What the commands are makes no difference, so none of them is carried out here.
  clear_value commands
  obtain ⟨tell, silent⟩ := logs_tell .standard supervisor commands
  exact ⟨tell, rfl, silent 5 (.apply "(a+b)^2" "Perfect Square (a+b)²") rfl⟩

/-- A warning is logged once though its worksheet is handed out twice, and the fault of a text that
was put off is logged when it is drained. -/
example :
    let first := fresh .standard (.ofCatalog ⟨[]⟩ .identity 256)
    let commands := [(0, Command.evaluate "0/0" .empty), (1, .explain "0/0" .empty),
      (2, .enqueue "$" .empty 3), (3, .drain)]
    (first.run commands).2.logs
      = ⟨["Evaluation error: unexpected character `$` at position 0"],
          ["Potential division by zero"]⟩ := by
  decide +kernel

end Calculator

end Workings
