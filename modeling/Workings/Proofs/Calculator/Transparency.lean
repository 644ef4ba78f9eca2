import Mathlib.Data.List.Forall2
import Workings.Calculator.Session
import Workings.Proofs.Calculator.Memory

/-!
# Remembering changes no reply

Two calculators that differ only in whether they remember anything reply alike to every command
after every history. The one difference is a worksheet that is handed out again: it has one more
line, which says so.
-/

namespace Workings

/-- A worksheet, and the same one handed out again: it has one more line, which says so. -/
inductive Worksheet.Again : (first again : Worksheet) → Prop where
  | line {expression : String} {value : Value} {findings : List Finding} {lines : List Line}
      {warnings : List String} {line : Line} (number : line.number = lines.length + 1)
      (operation : line.operation = .recalled) (result : line.result = value.text) :
      Again (.finished expression value findings lines warnings)
        (.finished expression value findings (lines ++ [line]) warnings)

/-- A worksheet that has not failed is handed out again with one more line. -/
theorem Worksheet.again_recalled {sheet : Worksheet} (finished : sheet.failure? = none)
    (source : String) : sheet.Again (sheet.recalled source) := by
  cases sheet with
  | failed expression message => contradiction
  | finished expression value findings lines warnings => exact .line rfl rfl rfl

/-- The worksheets that two calculators recorded for one request: the same one, or the same one
handed out again. -/
def Worksheet.Recorded (plain remembered : Worksheet) : Prop :=
  remembered = plain ∨ plain.Again remembered

namespace Calculator

/-- The replies of a calculator that remembers nothing and of one that remembers. They are the same
unless a worksheet is served from memory, when it is handed out again. -/
inductive Reply.Matches : (served : Bool) → (plain remembered : Reply) → Prop where
  | same (reply : Reply) : Matches false reply reply
  | worksheet {plain remembered : Worksheet} (again : plain.Again remembered) :
      Matches true (.worksheet plain) (.worksheet remembered)
  | explanation {plain remembered : Worksheet} (again : plain.Again remembered) :
      Matches true (.explanation plain.answer plain.lines)
        (.explanation remembered.answer remembered.lines)
  | drained {plain remembered : Worksheet} (id : Nat) (again : plain.Again remembered) :
      Matches true (.drained (some (id, plain))) (.drained (some (id, remembered)))
  /-- A recorded worksheet is the one that was handed out when the request was taken up. -/
  | result {plain remembered : Worksheet} (recorded : plain.Recorded remembered) :
      Matches false (.result (some plain)) (.result (some remembered))

/-- Whether the reply to a command is served from memory. -/
def servesCommand (calculator : Calculator) (now : Nat) : Command → Bool
  | .evaluate source bindings | .explain source bindings => calculator.serves now source bindings
  | .drain =>
    match calculator.backlog.pop? with
    | some (request, _) => calculator.serves now request.expression request.bindings
    | none => false
  | _ => false

/-- Worksheets that two calculators recorded for the same request. -/
def RecordedAlike (plain remembered : Nat × Worksheet) : Prop :=
  remembered.1 = plain.1 ∧ plain.2.Recorded remembered.2

/-- Two calculators that differ in whether they remember anything, with the same past. -/
structure Twins (settings : Settings) (plain remembering : Calculator) : Prop where
  plainSettings : plain.settings = { settings with caching := false }
  settings : remembering.settings = { settings with caching := true }
  supervisor : remembering.supervisor = plain.supervisor
  plainSound : plain.Sound
  sound : remembering.Sound
  waiting : remembering.backlog.waiting = plain.backlog.waiting
  nextId : remembering.backlog.nextId = plain.backlog.nextId
  results : List.Forall₂ RecordedAlike plain.backlog.results remembering.backlog.results

/-- Calculators that remember nothing yet are twins. -/
theorem twins_fresh (settings : Settings) (supervisor : Supervisor) :
    Twins settings (fresh { settings with caching := false } supervisor)
      (fresh { settings with caching := true } supervisor) where
  plainSettings := rfl
  settings := rfl
  supervisor := rfl
  plainSound := sound_fresh _ supervisor
  sound := sound_fresh _ supervisor
  waiting := rfl
  nextId := rfl
  results := .nil

variable {settings : Settings} {plain remembering : Calculator}

/-- A calculator that remembers nothing serves nothing from memory. -/
theorem Twins.plain_serves (twins : Twins settings plain remembering) (now : Nat)
    (source : String) (bindings : Bindings) : plain.serves now source bindings = false := by
  simp [serves, lookUp, twins.plainSettings]

/-- Twins stay twins when neither puts off or takes up an expression. -/
theorem Twins.of_keeps (twins : Twins settings plain remembering)
    {plainAfter rememberingAfter : Calculator} (plainKeeps : plain.Keeps plainAfter)
    (keeps : remembering.Keeps rememberingAfter) :
    Twins settings plainAfter rememberingAfter where
  plainSettings := plainKeeps.settings.trans twins.plainSettings
  settings := keeps.settings.trans twins.settings
  supervisor := by rw [keeps.supervisor, plainKeeps.supervisor, twins.supervisor]
  plainSound := plainKeeps.sound
  sound := keeps.sound
  waiting := by rw [keeps.backlog, plainKeeps.backlog, twins.waiting]
  nextId := by rw [keeps.backlog, plainKeeps.backlog, twins.nextId]
  results := by rw [keeps.backlog, plainKeeps.backlog]; exact twins.results

/-- Twins stay twins with backlogs that are alike. -/
theorem Twins.setBacklog (twins : Twins settings plain remembering)
    {plainBacklog backlog : Backlog} (waiting : backlog.waiting = plainBacklog.waiting)
    (nextId : backlog.nextId = plainBacklog.nextId)
    (results : List.Forall₂ RecordedAlike plainBacklog.results backlog.results) :
    Twins settings { plain with backlog := plainBacklog }
      { remembering with backlog := backlog } where
  plainSettings := twins.plainSettings
  settings := twins.settings
  supervisor := twins.supervisor
  plainSound := ⟨twins.plainSound.expressions, twins.plainSound.findings,
    twins.plainSound.worksheets⟩
  sound := ⟨twins.sound.expressions, twins.sound.findings, twins.sound.worksheets⟩
  waiting := waiting
  nextId := nextId
  results := results

/-- Twins that evaluate an expression stay twins. -/
theorem Twins.evaluate_snd (twins : Twins settings plain remembering) (now : Nat)
    (source : String) (bindings : Bindings) :
    Twins settings (plain.evaluate now source bindings).2
      (remembering.evaluate now source bindings).2 :=
  twins.of_keeps (twins.plainSound.evaluate_keeps now source bindings)
    (twins.sound.evaluate_keeps now source bindings)

/-- A worksheet that is served from memory is handed out again. -/
theorem Twins.evaluate_of_serves (twins : Twins settings plain remembering) {now : Nat}
    {source : String} {bindings : Bindings} (served : remembering.serves now source bindings) :
    (plain.evaluate now source bindings).1.Again
      (remembering.evaluate now source bindings).1 := by
  obtain ⟨finished, again⟩ := twins.sound.evaluate_of_serves served
  rw [again, twins.plainSound.evaluate_of_not_serves (twins.plain_serves now source bindings),
    ← twins.supervisor]
  exact Worksheet.again_recalled finished source

/-- A worksheet that is not served from memory is the same. -/
theorem Twins.evaluate_of_not_serves (twins : Twins settings plain remembering) {now : Nat}
    {source : String} {bindings : Bindings}
    (unserved : remembering.serves now source bindings = false) :
    (remembering.evaluate now source bindings).1 = (plain.evaluate now source bindings).1 := by
  rw [twins.sound.evaluate_of_not_serves unserved,
    twins.plainSound.evaluate_of_not_serves (twins.plain_serves now source bindings),
    twins.supervisor]

/-- Twins record worksheets for the same request. -/
theorem Twins.evaluate_recorded (twins : Twins settings plain remembering) (now : Nat)
    (source : String) (bindings : Bindings) :
    (plain.evaluate now source bindings).1.Recorded
      (remembering.evaluate now source bindings).1 := by
  cases served : remembering.serves now source bindings with
  | true => exact .inr (twins.evaluate_of_serves served)
  | false => exact .inl (twins.evaluate_of_not_serves served)

/-- Twins reply alike with the worksheet of an expression, in whatever form it is handed out. -/
theorem Twins.evaluate_matches (twins : Twins settings plain remembering) (now : Nat)
    (source : String) (bindings : Bindings) {reply : Worksheet → Reply}
    (again : ∀ {first again : Worksheet}, first.Again again →
      Reply.Matches true (reply first) (reply again)) :
    Reply.Matches (remembering.serves now source bindings)
      (reply (plain.evaluate now source bindings).1)
      (reply (remembering.evaluate now source bindings).1) := by
  cases served : remembering.serves now source bindings with
  | true => exact again (twins.evaluate_of_serves served)
  | false =>
    rw [twins.evaluate_of_not_serves served]
    exact .same _

/-- Dropping the worksheets of one request keeps what was recorded alike. -/
theorem recordedAlike_filter {plainResults results : List (Nat × Worksheet)}
    (alike : List.Forall₂ RecordedAlike plainResults results) (id : Nat) :
    List.Forall₂ RecordedAlike (plainResults.filter fun result => result.1 ≠ id)
      (results.filter fun result => result.1 ≠ id) := by
  induction alike with
  | nil => exact .nil
  | @cons left right plainRest rest related _ hypothesis =>
    by_cases dropped : left.1 = id
    · rw [List.filter_cons_of_neg (by simpa using dropped),
        List.filter_cons_of_neg (by simpa [related.1] using dropped)]
      exact hypothesis
    · rw [List.filter_cons_of_pos (by simpa using dropped),
        List.filter_cons_of_pos (by simpa [related.1] using dropped)]
      exact .cons related hypothesis

/-- What is looked up among worksheets that were recorded alike is alike. -/
theorem recordedAlike_lookup {plainResults results : List (Nat × Worksheet)}
    (alike : List.Forall₂ RecordedAlike plainResults results) (id : Nat) :
    Reply.Matches false (.result (plainResults.lookup id)) (.result (results.lookup id)) := by
  induction alike with
  | nil => exact .same _
  | @cons left right plainRest rest related _ hypothesis =>
    obtain ⟨number, plainSheet⟩ := left
    obtain ⟨otherNumber, sheet⟩ := right
    obtain ⟨same, recorded⟩ := related
    obtain rfl : otherNumber = number := same
    rw [List.lookup_cons, List.lookup_cons]
    cases id == otherNumber with
    | true => exact .result recorded
    | false => exact hypothesis

/-- Twins that take up an expression reply alike and stay twins. -/
theorem Twins.perform_drain (twins : Twins settings plain remembering) (now : Nat) :
    Reply.Matches (remembering.servesCommand now .drain) (plain.perform now .drain).1
        (remembering.perform now .drain).1
      ∧ Twins settings (plain.perform now .drain).2 (remembering.perform now .drain).2 := by
  unfold servesCommand perform drain Backlog.pop?
  rw [twins.waiting]
  cases plain.backlog.waiting with
  | nil => exact ⟨.same _, twins⟩
  | cons request rest =>
    dsimp only
    have taken : Twins settings
        { plain with backlog := { plain.backlog with waiting := rest } }
        { remembering with backlog := { remembering.backlog with waiting := rest } } :=
      twins.setBacklog rfl twins.nextId twins.results
    have after := taken.evaluate_snd now request.expression request.bindings
    have recorded := taken.evaluate_recorded now request.expression request.bindings
    constructor
    · exact @Twins.evaluate_matches _ _ _ taken now request.expression request.bindings
        (fun sheet => .drained (some (request.id, sheet))) (.drained _)
    · exact after.setBacklog after.waiting after.nextId
        (.cons ⟨rfl, recorded⟩ (recordedAlike_filter after.results _))

/-- Twins reply alike to every command and stay twins. -/
theorem Twins.perform (twins : Twins settings plain remembering) (now : Nat) (command : Command) :
    Reply.Matches (remembering.servesCommand now command) (plain.perform now command).1
        (remembering.perform now command).1
      ∧ Twins settings (plain.perform now command).2 (remembering.perform now command).2 := by
  cases command with
  | evaluate source bindings =>
    exact ⟨twins.evaluate_matches now source bindings .worksheet,
      twins.evaluate_snd now source bindings⟩
  | explain source bindings =>
    exact ⟨@Twins.evaluate_matches _ _ _ twins now source bindings
      (fun sheet => .explanation sheet.answer sheet.lines) .explanation,
      twins.evaluate_snd now source bindings⟩
  | parse source =>
    have plainFst := twins.plainSound.read_fst now source
    have fst := twins.sound.read_fst now source
    have after := twins.of_keeps (twins.plainSound.read_keeps now source)
      (twins.sound.read_keeps now source)
    simp only [servesCommand, Calculator.perform]
    generalize plain.read now source = plainReading at *
    generalize remembering.read now source = reading at *
    obtain ⟨plainResult, plainAfter⟩ := plainReading
    obtain ⟨result, rememberingAfter⟩ := reading
    obtain rfl : result = plainResult := fst.trans (by rw [twins.supervisor, ← plainFst])
    cases result <;> exact ⟨.same _, after⟩
  | detect source =>
    have replies : (remembering.detect now source).1 = (plain.detect now source).1 := by
      rw [twins.sound.detect_fst, twins.plainSound.detect_fst, twins.supervisor]
    refine ⟨?_, twins.of_keeps (twins.plainSound.detect_keeps now source)
      (twins.sound.detect_keeps now source)⟩
    change Reply.Matches false (.findings (plain.detect now source).1)
      (.findings (remembering.detect now source).1)
    rw [replies]
    exact .same _
  | apply source name =>
    obtain ⟨plainFst, plainKeeps⟩ := twins.plainSound.apply_spec now source name
    obtain ⟨fst, keeps⟩ := twins.sound.apply_spec now source name
    have after := twins.of_keeps plainKeeps keeps
    simp only [servesCommand, Calculator.perform]
    generalize plain.apply now source name = plainApplied at *
    generalize remembering.apply now source name = applied at *
    obtain ⟨plainResult, plainAfter⟩ := plainApplied
    obtain ⟨result, rememberingAfter⟩ := applied
    obtain rfl : result = plainResult := fst.trans (by rw [twins.supervisor, ← plainFst])
    rcases result with (fault | crash) | text <;> exact ⟨.same _, after⟩
  | validate source =>
    refine ⟨?_, twins⟩
    change Reply.Matches false (.ofRemarks (plain.supervisor.objections source))
      (.ofRemarks (remembering.supervisor.objections source))
    rw [twins.supervisor]
    exact .same _
  | check source => exact ⟨.same _, twins⟩
  | enqueue source bindings priority =>
    have deferring : remembering.settings.deferring = plain.settings.deferring := by
      rw [twins.settings, twins.plainSettings]
    simp only [servesCommand, Calculator.perform, enqueue, deferring]
    cases plain.settings.deferring with
    | false => exact ⟨.same _, twins⟩
    | true =>
      simp only [if_true, Backlog.push, twins.waiting, twins.nextId]
      exact ⟨.same _, twins.setBacklog rfl rfl twins.results⟩
  | drain => exact twins.perform_drain now
  | result id => exact ⟨recordedAlike_lookup twins.results id, twins⟩
  | status =>
    have status : remembering.backlog.status = plain.backlog.status := by
      simp only [Backlog.status, twins.waiting, twins.results.length_eq]
    refine ⟨?_, twins⟩
    change Reply.Matches false (.status plain.backlog.status) (.status remembering.backlog.status)
    rw [status]
    exact .same _
  | clearBacklog => exact ⟨.same _, twins.setBacklog rfl twins.nextId .nil⟩
  | clearCaches =>
    exact ⟨.same _, twins.of_keeps (keeps_clearCaches plain) (keeps_clearCaches remembering)⟩
  | clearLogs =>
    exact ⟨.same _, twins.of_keeps twins.plainSound.clearLogs_keeps twins.sound.clearLogs_keeps⟩

/-- Twins stay twins over every history. -/
theorem Twins.run (twins : Twins settings plain remembering) (history : List (Nat × Command)) :
    Twins settings (plain.run history).2 (remembering.run history).2 := by
  induction history generalizing plain remembering with
  | nil => exact twins
  | cons entry rest hypothesis => exact hypothesis (twins.perform entry.1 entry.2).2

/-- Whatever happened before, a calculator that remembers replies to every command as one that
remembers nothing does, but for the line that says that a worksheet is served from memory. -/
theorem caching_transparent (settings : Settings) (supervisor : Supervisor)
    (history : List (Nat × Command)) (now : Nat) (command : Command) :
    let plain := ((fresh { settings with caching := false } supervisor).run history).2
    let remembering := ((fresh { settings with caching := true } supervisor).run history).2
    Reply.Matches (remembering.servesCommand now command) (plain.perform now command).1
      (remembering.perform now command).1 :=
  (((twins_fresh settings supervisor).run history).perform now command).1

end Calculator

end Workings
