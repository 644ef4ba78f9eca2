import Workings.Calculator.Session

/-!
# What commands reach

A calculator is led from state to state by commands. Its rewriter need not be a function: it may
make another tree of the same expression each time it is asked. No command asks it twice, so every
command is carried out with a rewriter of its own.

Most commands leave most of a calculator alone, and how an evaluation comes out does not depend on
what waits in the backlog.
-/

namespace Workings.Calculator

/-! ## What commands leave alone -/

/-- What reading and searching leave as it was. -/
structure Spares (before after : Calculator) : Prop where
  settings : after.settings = before.settings
  supervisor : after.supervisor = before.supervisor
  worksheets : after.worksheets = before.worksheets
  backlog : after.backlog = before.backlog

/-- What two operations spare, one after the other. -/
theorem Spares.trans {first second third : Calculator} (earlier : first.Spares second)
    (later : second.Spares third) : first.Spares third where
  settings := later.settings.trans earlier.settings
  supervisor := later.supervisor.trans earlier.supervisor
  worksheets := later.worksheets.trans earlier.worksheets
  backlog := later.backlog.trans earlier.backlog

variable (calculator : Calculator) (now : Nat)

/-- Reading spares all but the expressions. -/
theorem spares_read (source : String) : calculator.Spares (calculator.read now source).2 := by
  unfold read
  dsimp only
  split
  · exact ⟨rfl, rfl, rfl, rfl⟩
  · split <;> exact ⟨rfl, rfl, rfl, rfl⟩

/-- Searching spares all but the findings. -/
theorem spares_detect (source : String) : calculator.Spares (calculator.detect now source).2 := by
  unfold detect
  dsimp only
  split <;> exact ⟨rfl, rfl, rfl, rfl⟩

/-- Logging spares all but the logs. -/
theorem spares_handOut (sheet : Worksheet) : calculator.Spares (calculator.handOut sheet).2 :=
  ⟨rfl, rfl, rfl, rfl⟩

/-- Applying a formula reads and searches. -/
theorem spares_apply (source name : String) :
    calculator.Spares (calculator.apply now source name).2 := by
  have reading := calculator.spares_read now source
  unfold apply
  generalize calculator.read now source = read at reading
  obtain ⟨fault | expr, between⟩ := read
  · exact reading
  · dsimp only
    cases between.supervisor.catalog.named? name with
    | none => exact reading
    | some formula =>
      have searching := reading.trans (between.spares_detect now source)
      dsimp only
      split
      · exact searching
      · split <;> exact searching

/-- Whether a command reads, searches or only asks. It evaluates nothing then, and leaves the
backlog alone. -/
def Command.isQuiet : Command → Bool
  | .parse _ | .detect _ | .apply _ _ | .validate _ | .check _ | .result _ | .status | .clearLogs =>
    true
  | _ => false

/-- A quiet command spares what reading and searching spare. -/
theorem spares_perform {command : Command} (quiet : command.isQuiet) :
    calculator.Spares (calculator.perform now command).2 := by
  cases command with
  | parse source =>
    have spares := calculator.spares_read now source
    simp only [perform]
    generalize calculator.read now source = read at spares
    obtain ⟨fault | expr, after⟩ := read <;> exact spares
  | detect source => exact calculator.spares_detect now source
  | apply source name =>
    have spares := calculator.spares_apply now source name
    simp only [perform]
    generalize calculator.apply now source name = applied at spares
    obtain ⟨(fault | crash) | text, after⟩ := applied <;> exact spares
  | validate | check | result | status | clearLogs => exact ⟨rfl, rfl, rfl, rfl⟩
  | _ => contradiction

/-! ## How an evaluation comes out -/

/-- The outcomes of an evaluation: the worksheet, and the calculator that is left. -/
inductive Outcome (source : String) (bindings : Bindings) : Worksheet → Calculator → Prop where
  /-- A worksheet is handed out again. -/
  | recalled {sheet : Worksheet} {worksheets : Cache Worksheet}
      (hit : lookUp calculator.settings calculator.worksheets now
        (evaluationKey source bindings.pairs) = (some sheet, worksheets)) :
      Outcome source bindings (sheet.recalled source) { calculator with worksheets }
  /-- The expression is not read, or its evaluation breaks off. Nothing is remembered. -/
  | failed {worksheets : Cache Worksheet} {after : Calculator} {message : String}
      (miss : lookUp calculator.settings calculator.worksheets now
        (evaluationKey source bindings.pairs) = (none, worksheets))
      (spares : Spares { calculator with worksheets } after) :
      Outcome source bindings (.failed source message) after
  /-- The expression is worked out. The worksheet is remembered. -/
  | finished {worksheets : Cache Worksheet} {between after : Calculator} {expr : Expr}
      {found : List Finding} {sheet : Worksheet}
      (miss : lookUp calculator.settings calculator.worksheets now
        (evaluationKey source bindings.pairs) = (none, worksheets))
      (spares : Spares { calculator with worksheets } between)
      (worksOut : calculator.supervisor.evaluateRead source expr bindings found = .ok sheet)
      (remembers : Spares
        { between with
          worksheets := remember calculator.settings worksheets now
            (evaluationKey source bindings.pairs) sheet }
        after) :
      Outcome source bindings sheet after

/-- Every evaluation has one of the outcomes. -/
theorem outcome_evaluate (source : String) (bindings : Bindings) :
    calculator.Outcome now source bindings (calculator.evaluate now source bindings).1
      (calculator.evaluate now source bindings).2 := by
  unfold evaluate
  dsimp only
  generalize looked : lookUp calculator.settings calculator.worksheets now
    (evaluationKey source bindings.pairs) = found
  obtain ⟨_ | sheet, worksheets⟩ := found
  · dsimp only
    have reading := spares_read { calculator with worksheets } now source
    unfold workOut
    generalize read { calculator with worksheets } now source = read at reading
    obtain ⟨fault | expr, afterRead⟩ := read
    · exact .failed looked (reading.trans (spares_handOut _ _))
    · have searching := reading.trans (afterRead.spares_detect now source)
      dsimp only
      generalize afterRead.detect now source = detected at searching
      obtain ⟨found, afterSearch⟩ := detected
      dsimp only at searching ⊢
      split
      · exact .failed looked (searching.trans (spares_handOut _ _))
      · rename_i sheet worksOut
        rw [searching.supervisor] at worksOut
        have remembers (key : String) :
            remember afterSearch.settings afterSearch.worksheets now key sheet
              = remember calculator.settings worksheets now key sheet := by
          rw [searching.settings, searching.worksheets]
        exact .finished looked searching worksOut ⟨rfl, rfl, remembers _, rfl⟩
  · exact .recalled looked

variable {calculator now} {source : String} {bindings : Bindings} {sheet : Worksheet}
  {after : Calculator}

/-- An evaluation leaves the settings as they were. -/
theorem Outcome.settings_eq (outcome : calculator.Outcome now source bindings sheet after) :
    after.settings = calculator.settings := by
  cases outcome with
  | recalled => rfl
  | failed _ spares => exact spares.settings
  | finished _ spares _ remembers => exact remembers.settings.trans spares.settings

/-- An evaluation leaves the backlog as it was. -/
theorem Outcome.backlog_eq (outcome : calculator.Outcome now source bindings sheet after) :
    after.backlog = calculator.backlog := by
  cases outcome with
  | recalled => rfl
  | failed _ spares => exact spares.backlog
  | finished _ spares _ remembers => exact remembers.backlog.trans spares.backlog

variable (calculator now)

/-- Reading does not look at the backlog. -/
theorem read_with_backlog (backlog : Backlog) (source : String) :
    read { calculator with backlog } now source
      = ((calculator.read now source).1, { (calculator.read now source).2 with backlog }) := by
  unfold read
  dsimp only
  generalize lookUp calculator.settings calculator.expressions now source = looked
  obtain ⟨_ | expr, expressions⟩ := looked
  · cases calculator.supervisor.read source <;> rfl
  · rfl

/-- Searching does not look at the backlog. -/
theorem detect_with_backlog (backlog : Backlog) (source : String) :
    detect { calculator with backlog } now source
      = ((calculator.detect now source).1, { (calculator.detect now source).2 with backlog }) := by
  unfold detect
  dsimp only
  generalize lookUp calculator.settings calculator.findings now source = looked
  obtain ⟨_ | found, findings⟩ := looked <;> rfl

/-- Working out does not look at the backlog. -/
theorem workOut_with_backlog (backlog : Backlog) (source : String) (bindings : Bindings) :
    (workOut { calculator with backlog } now source bindings).1
      = (calculator.workOut now source bindings).1 := by
  unfold workOut
  rw [read_with_backlog]
  generalize calculator.read now source = read
  obtain ⟨fault | expr, afterRead⟩ := read
  · rfl
  · dsimp only
    rw [detect_with_backlog]
    dsimp only
    generalize afterRead.detect now source = detected
    obtain ⟨found, afterSearch⟩ := detected
    dsimp only
    cases afterSearch.supervisor.evaluateRead source expr bindings found <;> rfl

/-- What waits in the backlog makes no difference to an evaluation. -/
theorem evaluate_with_backlog (backlog : Backlog) (source : String) (bindings : Bindings) :
    (evaluate { calculator with backlog } now source bindings).1
      = (calculator.evaluate now source bindings).1 := by
  unfold evaluate
  dsimp only
  generalize lookUp calculator.settings calculator.worksheets now
    (evaluationKey source bindings.pairs) = looked
  obtain ⟨_ | sheet, worksheets⟩ := looked
  · exact workOut_with_backlog { calculator with worksheets } now backlog source bindings
  · rfl

/-- Draining takes a request out of the backlog, evaluates it and records its worksheet. -/
theorem drain_of_pop {request : Backlog.Request} {rest : Backlog}
    (pops : calculator.backlog.pop? = some (request, rest)) :
    ∃ sheet between,
      Outcome { calculator with backlog := rest } now request.expression request.bindings sheet
        between
      ∧ calculator.drain now
        = (some (request.id, sheet),
            { between with backlog := rest.record request.id sheet }) := by
  have outcome := outcome_evaluate { calculator with backlog := rest } now request.expression
    request.bindings
  refine ⟨_, _, outcome, ?_⟩
  simp only [drain, pops, outcome.backlog_eq]

/-! ## Reachable states -/

/-- The calculator with another rewriter. -/
def employing (calculator : Calculator) (rewriter : Rewriter) : Calculator :=
  { calculator with supervisor := { calculator.supervisor with rewriter } }

/-- What is reached from a first calculator, with all commands on the way and their replies. Times
and rewriters are arbitrary. -/
inductive Reaches (first : Calculator) : List (Command × Reply) → Calculator → Prop where
  | start : Reaches first [] first
  | next {exchanges : List (Command × Reply)} {calculator : Calculator}
      (reaches : Reaches first exchanges calculator) (rewriter : Rewriter) (now : Nat)
      (command : Command) :
      Reaches first
        (exchanges ++ [(command, ((calculator.employing rewriter).perform now command).1)])
        ((calculator.employing rewriter).perform now command).2

/-- A run goes on to the calculator that it leaves. -/
theorem Reaches.run {first calculator : Calculator} {exchanges : List (Command × Reply)}
    (reaches : Reaches first exchanges calculator) (commands : List (Nat × Command)) :
    Reaches first (exchanges ++ (commands.map Prod.snd).zip (calculator.run commands).1)
      (calculator.run commands).2 := by
  induction commands generalizing calculator exchanges with
  | nil => simpa [Calculator.run] using reaches
  | cons command rest hypothesis =>
    have further := hypothesis
      (reaches.next calculator.supervisor.rewriter command.1 command.2)
    rw [List.append_assoc] at further
    exact further

/-- A run reaches the calculator that it leaves from the one that it begins with. -/
theorem reaches_run (first : Calculator) (commands : List (Nat × Command)) :
    Reaches first ((commands.map Prod.snd).zip (first.run commands).1) (first.run commands).2 := by
  simpa using Reaches.start.run commands

end Workings.Calculator
