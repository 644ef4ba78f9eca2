import Workings.Calculator.Session
import Workings.Proofs.Cache.Entries
import Workings.Proofs.Evaluation.Agreement
import Workings.Proofs.EvaluationKey

/-!
# What a calculator remembers

Everything that a calculator remembers is what it would find out again. Each of its operations keeps
this, and so each answers what the supervisor answers, whether something was remembered or not, and
whatever happened before. Only a worksheet that is handed out again says so.
-/

namespace Workings

/-- The worksheet of an expression, worked out from its text. -/
def Supervisor.sheet (supervisor : Supervisor) (source : String) (bindings : Bindings) :
    Worksheet :=
  match supervisor.read source with
  | .error fault => .failed source fault.message
  | .ok expr =>
    match supervisor.evaluateRead source expr bindings (supervisor.detector.detect source) with
    | .error crash => Calculator.crashed source crash
    | .ok sheet => sheet

/-- What applying a formula makes of a text, worked out from the text. -/
def Supervisor.applied (supervisor : Supervisor) (source name : String) :
    Except Trouble String :=
  match supervisor.read source with
  | .error fault => .error (.refused fault)
  | .ok expr =>
    match supervisor.catalog.named? name with
    | none =>
      .error (.refused (.within (Calculator.whole source)
        (.unknownFormula name (supervisor.catalog.similar name))))
    | some formula =>
      match (supervisor.detector.detect source).find? fun finding =>
          finding.formula = formula.name with
      | none => .ok expr.text
      | some finding =>
        match supervisor.rewriter expr formula finding with
        | .ok rewritten => .ok rewritten.text
        | .error crash => .error (.broken crash)

namespace Supervisor

variable {supervisor : Supervisor} {source : String} {expr : Expr} {bindings : Bindings}
  {findings : List Finding} {sheet : Worksheet}

/-- The worksheet of an expression that was read is that of what the rewriter makes of it. -/
theorem evaluateRead_eq_ok_iff :
    supervisor.evaluateRead source expr bindings findings = .ok sheet
      ↔ ∃ rewritten value trace, supervisor.rewrite expr findings = .ok rewritten
        ∧ rewritten.workOut bindings supervisor.ceiling = .ok (value, trace)
        ∧ .finished source value findings (trace.map supervisor.annotate) (warnings source trace)
          = sheet := by
  unfold evaluateRead
  cases supervisor.rewrite expr findings with
  | error crash => simp [bind, Except.bind]
  | ok rewritten =>
    simp only [bind, Except.bind]
    cases worksOut : rewritten.workOut bindings supervisor.ceiling with
    | error overflow => simp [worksOut, throw, throwThe, MonadExceptOf.throw]
    | ok found =>
      obtain ⟨value, trace⟩ := found
      simp [worksOut, pure, Except.pure]

/-- The worksheet of an expression that was read has not failed. -/
theorem failure?_of_evaluateRead
    (outcome : supervisor.evaluateRead source expr bindings findings = .ok sheet) :
    sheet.failure? = none := by
  obtain ⟨_, _, _, -, -, rfl⟩ := evaluateRead_eq_ok_iff.1 outcome
  rfl

/-- Where the rewriter leaves expressions as they are, it makes no difference what is found. -/
theorem rewrite_of_identity (undisturbed : supervisor.rewriter = .identity) (expr : Expr)
    (findings : List Finding) : supervisor.rewrite expr findings = .ok expr := by
  unfold rewrite
  rw [undisturbed]
  split <;> rfl

end Supervisor

/-- Evaluations with the same key have the same worksheet. -/
theorem Supervisor.sheet_eq_of_key_eq (supervisor : Supervisor) {left right : String}
    {leftBindings rightBindings : Bindings}
    (same : evaluationKey left leftBindings.pairs = evaluationKey right rightBindings.pairs) :
    supervisor.sheet left leftBindings = supervisor.sheet right rightBindings := by
  obtain ⟨rfl, listed⟩ := EvaluationKey.evaluationKey_injective same
  have workedOut (expr : Expr) := expr.workOut_eq_of_perm listed supervisor.ceiling
  simp only [sheet, evaluateRead, workedOut]

namespace Calculator

/-- What a calculator remembers is what it would find out again. -/
structure Sound (calculator : Calculator) : Prop where
  expressions : calculator.expressions.Every fun source expr =>
    calculator.supervisor.read source = .ok expr
  findings : calculator.findings.Every fun source found =>
    calculator.supervisor.detector.detect source = found
  worksheets : calculator.worksheets.Every fun key sheet =>
    sheet.failure? = none ∧ ∃ source bindings, evaluationKey source bindings.pairs = key
      ∧ calculator.supervisor.sheet source bindings = sheet

/-- What an operation that neither puts off nor takes up expressions leaves as it was. -/
structure Keeps (before after : Calculator) : Prop where
  settings : after.settings = before.settings
  supervisor : after.supervisor = before.supervisor
  backlog : after.backlog = before.backlog
  sound : after.Sound

/-- What two operations keep, one after the other. -/
theorem Keeps.trans {first second third : Calculator} (earlier : first.Keeps second)
    (later : second.Keeps third) : first.Keeps third where
  settings := later.settings.trans earlier.settings
  supervisor := later.supervisor.trans earlier.supervisor
  backlog := later.backlog.trans earlier.backlog
  sound := later.sound

/-- A calculator that remembers nothing remembers nothing wrong. -/
theorem sound_fresh (settings : Settings) (supervisor : Supervisor) :
    (fresh settings supervisor).Sound where
  expressions := Cache.every_empty _ _ _
  findings := Cache.every_empty _ _ _
  worksheets := Cache.every_empty _ _ _

section Lookups

variable {Content : Type} {cache : Cache Content} {property : String → Content → Prop}

/-- What is found in a cache has the property of its entries. -/
theorem of_lookUp (every : cache.Every property) {settings : Settings} {now : Nat} {key : String}
    {value : Content} {looked : Cache Content}
    (hit : lookUp settings cache now key = (some value, looked)) : property key value := by
  unfold lookUp at hit
  split at hit
  · exact every.of_get (congrArg Prod.fst hit)
  · simp at hit

/-- Looking up keeps the property of the entries. -/
theorem every_lookUp (every : cache.Every property) {settings : Settings} {now : Nat} {key : String}
    {value? : Option Content} {looked : Cache Content}
    (done : lookUp settings cache now key = (value?, looked)) : looked.Every property := by
  unfold lookUp at done
  split at done
  · obtain rfl := congrArg Prod.snd done
    exact every.get now key
  · obtain rfl := congrArg Prod.snd done
    exact every

/-- Remembering what has the property keeps it. -/
theorem every_remember (every : cache.Every property) (settings : Settings) (now : Nat)
    {key : String} {value : Content} (holds : property key value) :
    (remember settings cache now key value).Every property := by
  unfold remember
  split
  · exact every.put now holds
  · exact every

end Lookups

variable {calculator : Calculator}

/-- Reading answers what the supervisor reads. -/
theorem Sound.read_fst (sound : calculator.Sound) (now : Nat) (source : String) :
    (calculator.read now source).1 = calculator.supervisor.read source := by
  unfold read
  dsimp only
  split
  · rename_i expr expressions hit
    exact (of_lookUp sound.expressions hit).symm
  · split <;> rename_i result <;> exact result.symm

/-- Reading keeps what is remembered right. -/
theorem Sound.read_keeps (sound : calculator.Sound) (now : Nat) (source : String) :
    calculator.Keeps (calculator.read now source).2 := by
  unfold read
  dsimp only
  split
  · rename_i expr expressions done
    exact ⟨rfl, rfl, rfl, every_lookUp sound.expressions done, sound.findings, sound.worksheets⟩
  · rename_i expressions done
    have every := every_lookUp sound.expressions done
    split
    · exact ⟨rfl, rfl, rfl, every, sound.findings, sound.worksheets⟩
    · rename_i expr result
      exact ⟨rfl, rfl, rfl, every_remember every _ now result, sound.findings, sound.worksheets⟩

/-- Searching for formulas answers what the detector finds. -/
theorem Sound.detect_fst (sound : calculator.Sound) (now : Nat) (source : String) :
    (calculator.detect now source).1 = calculator.supervisor.detector.detect source := by
  unfold detect
  dsimp only
  split
  · rename_i found findings hit
    exact (of_lookUp sound.findings hit).symm
  · rfl

/-- Searching for formulas keeps what is remembered right. -/
theorem Sound.detect_keeps (sound : calculator.Sound) (now : Nat) (source : String) :
    calculator.Keeps (calculator.detect now source).2 := by
  unfold detect
  dsimp only
  split
  · rename_i found findings done
    exact ⟨rfl, rfl, rfl, sound.expressions, every_lookUp sound.findings done, sound.worksheets⟩
  · rename_i findings done
    have every := every_lookUp sound.findings done
    exact ⟨rfl, rfl, rfl, sound.expressions, every_remember every _ now rfl, sound.worksheets⟩

/-- Logging keeps what is remembered right. -/
theorem Sound.handOut_keeps (sound : calculator.Sound) (sheet : Worksheet) :
    calculator.Keeps (calculator.handOut sheet).2 :=
  ⟨rfl, rfl, rfl, sound.expressions, sound.findings, sound.worksheets⟩

/-- Working out answers the worksheet of the supervisor, and keeps what is remembered right. -/
theorem Sound.workOut_spec (sound : calculator.Sound) (now : Nat) (source : String)
    (bindings : Bindings) :
    (calculator.workOut now source bindings).1 = calculator.supervisor.sheet source bindings
      ∧ calculator.Keeps (calculator.workOut now source bindings).2 := by
  have readFst := sound.read_fst now source
  have readKeeps := sound.read_keeps now source
  unfold workOut Supervisor.sheet
  generalize calculator.read now source = reading at *
  obtain ⟨result, afterRead⟩ := reading
  dsimp only at readFst readKeeps
  subst readFst
  cases result : calculator.supervisor.read source with
  | error fault => exact ⟨rfl, readKeeps.trans (readKeeps.sound.handOut_keeps _)⟩
  | ok expr =>
    have detectFst := readKeeps.sound.detect_fst now source
    have detectKeeps := readKeeps.trans (readKeeps.sound.detect_keeps now source)
    dsimp only
    generalize afterRead.detect now source = detection at *
    obtain ⟨found, afterDetect⟩ := detection
    dsimp only at detectFst detectKeeps ⊢
    subst detectFst
    rw [readKeeps.supervisor, ← detectKeeps.supervisor]
    rw [← detectKeeps.supervisor] at result
    cases outcome : afterDetect.supervisor.evaluateRead source expr bindings
        (afterDetect.supervisor.detector.detect source) with
    | error crash => exact ⟨rfl, detectKeeps.trans (detectKeeps.sound.handOut_keeps _)⟩
    | ok sheet =>
      have sheet_eq : afterDetect.supervisor.sheet source bindings = sheet := by
        simp only [Supervisor.sheet, result, outcome]
      have every := every_remember detectKeeps.sound.worksheets afterDetect.settings now
        ⟨Supervisor.failure?_of_evaluateRead outcome, source, bindings, rfl, sheet_eq⟩
      exact ⟨rfl, detectKeeps.settings, detectKeeps.supervisor, detectKeeps.backlog,
        detectKeeps.sound.expressions, detectKeeps.sound.findings, every⟩

/-- Whether a calculator has a worksheet to hand out again. -/
def serves (calculator : Calculator) (now : Nat) (source : String) (bindings : Bindings) : Bool :=
  (lookUp calculator.settings calculator.worksheets now
    (evaluationKey source bindings.pairs)).1.isSome

/-- A worksheet that is handed out again is the one of the supervisor with one more line. -/
theorem Sound.evaluate_of_serves (sound : calculator.Sound) {now : Nat} {source : String}
    {bindings : Bindings} (served : calculator.serves now source bindings) :
    (calculator.supervisor.sheet source bindings).failure? = none
      ∧ (calculator.evaluate now source bindings).1
        = (calculator.supervisor.sheet source bindings).recalled source := by
  unfold serves at served
  unfold evaluate
  dsimp only
  generalize looked_eq : lookUp calculator.settings calculator.worksheets now
    (evaluationKey source bindings.pairs) = looked at *
  obtain ⟨_ | sheet, worksheets⟩ := looked
  · contradiction
  · obtain ⟨finished, other, otherBindings, sameKey, rfl⟩ := of_lookUp sound.worksheets looked_eq
    have same := calculator.supervisor.sheet_eq_of_key_eq sameKey
    exact ⟨same ▸ finished, congrArg (Worksheet.recalled source) same⟩

/-- A worksheet that is not handed out again is the one of the supervisor. -/
theorem Sound.evaluate_of_not_serves (sound : calculator.Sound) {now : Nat} {source : String}
    {bindings : Bindings} (unserved : calculator.serves now source bindings = false) :
    (calculator.evaluate now source bindings).1
      = calculator.supervisor.sheet source bindings := by
  unfold serves at unserved
  unfold evaluate
  dsimp only
  generalize looked_eq : lookUp calculator.settings calculator.worksheets now
    (evaluationKey source bindings.pairs) = looked at *
  obtain ⟨_ | sheet, worksheets⟩ := looked
  · have looked : Sound { calculator with worksheets } :=
      ⟨sound.expressions, sound.findings, every_lookUp sound.worksheets looked_eq⟩
    exact (looked.workOut_spec now source bindings).1
  · contradiction

/-- Evaluating keeps what is remembered right. -/
theorem Sound.evaluate_keeps (sound : calculator.Sound) (now : Nat) (source : String)
    (bindings : Bindings) : calculator.Keeps (calculator.evaluate now source bindings).2 := by
  unfold evaluate
  dsimp only
  generalize looked_eq : lookUp calculator.settings calculator.worksheets now
    (evaluationKey source bindings.pairs) = looked
  obtain ⟨value?, worksheets⟩ := looked
  have every := every_lookUp sound.worksheets looked_eq
  have looked : calculator.Keeps { calculator with worksheets } :=
    ⟨rfl, rfl, rfl, sound.expressions, sound.findings, every⟩
  cases value? with
  | none => exact looked.trans (looked.sound.workOut_spec now source bindings).2
  | some sheet => exact looked

/-- Applying a formula answers what the supervisor makes of it, and keeps what is remembered
right. -/
theorem Sound.apply_spec (sound : calculator.Sound) (now : Nat) (source name : String) :
    (calculator.apply now source name).1 = calculator.supervisor.applied source name
      ∧ calculator.Keeps (calculator.apply now source name).2 := by
  have readFst := sound.read_fst now source
  have readKeeps := sound.read_keeps now source
  unfold apply Supervisor.applied
  generalize calculator.read now source = reading at *
  obtain ⟨result, afterRead⟩ := reading
  dsimp only at readFst readKeeps
  subst readFst
  rw [← readKeeps.supervisor]
  cases afterRead.supervisor.read source with
  | error fault => exact ⟨rfl, readKeeps⟩
  | ok expr =>
    dsimp only
    cases afterRead.supervisor.catalog.named? name with
    | none => exact ⟨rfl, readKeeps⟩
    | some formula =>
      have detectFst := readKeeps.sound.detect_fst now source
      have detectKeeps := readKeeps.sound.detect_keeps now source
      dsimp only
      generalize afterRead.detect now source = detection at *
      obtain ⟨found, afterDetect⟩ := detection
      dsimp only at detectFst detectKeeps ⊢
      subst detectFst
      rw [← detectKeeps.supervisor]
      cases (afterDetect.supervisor.detector.detect source).find?
          fun finding => finding.formula = formula.name with
      | none => exact ⟨rfl, readKeeps.trans detectKeeps⟩
      | some finding =>
        dsimp only
        cases afterDetect.supervisor.rewriter expr formula finding with
        | error crash => exact ⟨rfl, readKeeps.trans detectKeeps⟩
        | ok rewritten => exact ⟨rfl, readKeeps.trans detectKeeps⟩

/-- Forgetting everything leaves nothing wrong remembered. -/
theorem keeps_clearCaches (calculator : Calculator) : calculator.Keeps calculator.clearCaches :=
  ⟨rfl, rfl, rfl, ⟨Cache.Every.clear _, Cache.Every.clear _, Cache.Every.clear _⟩⟩

/-- Dropping the log entries keeps what is remembered right. -/
theorem Sound.clearLogs_keeps (sound : calculator.Sound) :
    calculator.Keeps calculator.clearLogs :=
  ⟨rfl, rfl, rfl, sound.expressions, sound.findings, sound.worksheets⟩

/-- A calculator that remembers nothing wrong, under the settings and the supervisor it was made
with. -/
structure Faithful (settings : Settings) (supervisor : Supervisor) (calculator : Calculator) :
    Prop where
  settings : calculator.settings = settings
  supervisor : calculator.supervisor = supervisor
  sound : calculator.Sound

section Histories

variable {settings : Settings} {supervisor : Supervisor}

/-- A calculator is faithful when it is made. -/
theorem faithful_fresh (settings : Settings) (supervisor : Supervisor) :
    (fresh settings supervisor).Faithful settings supervisor :=
  ⟨rfl, rfl, sound_fresh settings supervisor⟩

/-- What keeps what is remembered right keeps a calculator faithful. -/
theorem Faithful.of_keeps (faithful : calculator.Faithful settings supervisor)
    {after : Calculator} (keeps : calculator.Keeps after) : after.Faithful settings supervisor where
  settings := keeps.settings.trans faithful.settings
  supervisor := keeps.supervisor.trans faithful.supervisor
  sound := keeps.sound

/-- The backlog plays no part in what is remembered. -/
theorem Faithful.with_backlog (faithful : calculator.Faithful settings supervisor)
    (backlog : Backlog) : Faithful settings supervisor { calculator with backlog } where
  settings := faithful.settings
  supervisor := faithful.supervisor
  sound := ⟨faithful.sound.expressions, faithful.sound.findings, faithful.sound.worksheets⟩

/-- Every command keeps a calculator faithful. -/
theorem Faithful.perform (faithful : calculator.Faithful settings supervisor) (now : Nat)
    (command : Command) : (calculator.perform now command).2.Faithful settings supervisor := by
  have sound := faithful.sound
  cases command with
  | evaluate source bindings | explain source bindings =>
    exact faithful.of_keeps (sound.evaluate_keeps now source bindings)
  | parse source =>
    have keeps := sound.read_keeps now source
    simp only [Calculator.perform]
    generalize calculator.read now source = reading at keeps
    obtain ⟨fault | expr, after⟩ := reading <;> exact faithful.of_keeps keeps
  | detect source => exact faithful.of_keeps (sound.detect_keeps now source)
  | apply source name =>
    have keeps := (sound.apply_spec now source name).2
    simp only [Calculator.perform]
    generalize calculator.apply now source name = applied at keeps
    obtain ⟨(fault | crash) | text, after⟩ := applied <;> exact faithful.of_keeps keeps
  | enqueue source bindings priority =>
    simp only [Calculator.perform, enqueue]
    cases calculator.settings.deferring with
    | false => exact faithful
    | true => exact faithful.with_backlog _
  | drain =>
    simp only [Calculator.perform, drain]
    split
    · exact faithful
    · rename_i request rest _
      have taken := faithful.with_backlog rest
      have keeps := taken.sound.evaluate_keeps now request.expression request.bindings
      exact (taken.of_keeps keeps).with_backlog _
  | validate | check | result | status => exact faithful
  | clearBacklog => exact faithful.with_backlog _
  | clearCaches => exact faithful.of_keeps (keeps_clearCaches calculator)
  | clearLogs => exact faithful.of_keeps sound.clearLogs_keeps

/-- A calculator stays faithful over every history. -/
theorem Faithful.run (faithful : calculator.Faithful settings supervisor)
    (history : List (Nat × Command)) :
    (calculator.run history).2.Faithful settings supervisor := by
  induction history generalizing calculator with
  | nil => exact faithful
  | cons entry rest hypothesis => exact hypothesis (faithful.perform entry.1 entry.2)

/-- Whatever happened before, a calculator answers the worksheet of its supervisor, with one more
line if it is handed out again. -/
theorem Faithful.evaluate_fst (faithful : calculator.Faithful settings supervisor) (now : Nat)
    (source : String) (bindings : Bindings) :
    (calculator.evaluate now source bindings).1 = supervisor.sheet source bindings
      ∨ (calculator.evaluate now source bindings).1
        = (supervisor.sheet source bindings).recalled source := by
  rw [← faithful.supervisor]
  cases served : calculator.serves now source bindings with
  | false => exact .inl (faithful.sound.evaluate_of_not_serves served)
  | true => exact .inr (faithful.sound.evaluate_of_serves served).2

end Histories

end Calculator

end Workings
