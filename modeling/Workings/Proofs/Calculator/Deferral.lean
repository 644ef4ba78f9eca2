import Workings.Proofs.Backlog
import Workings.Proofs.Calculator.Reach

/-!
# What was put off

What a calculator was asked and what it replied tells what happened to its backlog, and so what
waits there, what was drained and what was cleared away. The calculator never departs from this,
whatever else it is asked in between.
-/

namespace Workings.Calculator

open Backlog (Happening History Fate)

/-- What a command and its reply do to the backlog. -/
def happening? : Command × Reply → Option Happening
  | (.enqueue expression bindings priority, .accepted id) =>
    some (.enqueued ⟨id, expression, bindings, priority⟩)
  | (.drain, .drained (some (id, sheet))) => some (.drained id sheet)
  | (.clearBacklog, _) => some .cleared
  | _ => none

/-- What commands and their replies did to the backlog. -/
def history (exchanges : List (Command × Reply)) : History :=
  exchanges.filterMap happening?

/-- The reply to a command that puts an expression off. -/
def acceptance? : Command × Reply → Option Reply
  | (.enqueue _ _ _, reply) => some reply
  | _ => none

/-- The replies to the commands that put expressions off. -/
def acceptances (exchanges : List (Command × Reply)) : List Reply :=
  exchanges.filterMap acceptance?

/-- What a calculator does about the expressions that were put off, by what it was asked before and
what it replied. -/
structure Defers (calculator : Calculator) (exchanges : List (Command × Reply)) : Prop where
  /-- The replies to requests number them from nought. -/
  numbers : acceptances exchanges = (List.range (acceptances exchanges).length).map .accepted
  /-- The next request has the next number. -/
  next (rewriter : Rewriter) (now : Nat) (expression : String) (bindings : Bindings)
    (priority : Int) :
    ((calculator.employing rewriter).perform now (.enqueue expression bindings priority)).1
      = .accepted (acceptances exchanges).length
  /-- Every request waits, is finished or was discarded. -/
  fates : ∀ request ∈ (history exchanges).requests,
    ∃! fate, request.Meets (history exchanges) fate
  /-- No request is drained twice. -/
  once (id : Nat) : ((history exchanges).sheets id).length ≤ 1
  /-- The worksheet of a finished request is recorded under its number, and no other. -/
  results {request : Backlog.Request} {fate : Fate}
    (meets : request.Meets (history exchanges) fate) (rewriter : Rewriter) (now : Nat) :
    ((calculator.employing rewriter).perform now (.result request.id)).1 = .result fate.sheet?
  /-- Nothing is recorded under a number that was not given. -/
  unknown {id : Nat} (ungiven : (acceptances exchanges).length ≤ id) (rewriter : Rewriter)
    (now : Nat) : ((calculator.employing rewriter).perform now (.result id)).1 = .result none
  /-- The status counts the requests that wait and those that are finished. -/
  status (rewriter : Rewriter) (now : Nat) :
    ((calculator.employing rewriter).perform now .status).1
      = .status ⟨(history exchanges).waiting.length, (history exchanges).finished.length,
          ((history exchanges).waiting.map Backlog.Request.priority).max?⟩
  /-- Nothing is drained if no request waits. -/
  idle (nothing : (history exchanges).waiting = []) (rewriter : Rewriter) (now : Nat) :
    ((calculator.employing rewriter).perform now .drain).1 = .drained none
  /-- The most urgent of the requests that wait is drained, and evaluated as it was put off. -/
  drains (something : (history exchanges).waiting ≠ []) (rewriter : Rewriter) (now : Nat) :
    ∃ request ∈ (history exchanges).waiting, request.Leads (history exchanges).waiting
      ∧ ((calculator.employing rewriter).perform now .drain).1
        = .drained (some (request.id,
            ((calculator.employing rewriter).evaluate now request.expression
              request.bindings).1))

/-! ## What a command does to the backlog -/

variable (calculator : Calculator) (now : Nat)

/-- What a command does to the backlog can be told from its reply. -/
theorem step_perform (command : Command) :
    calculator.backlog.Step (happening? (command, (calculator.perform now command).1))
      (calculator.perform now command).2.backlog := by
  cases command with
  | evaluate source bindings | explain source bindings =>
    exact .of_eq (calculator.outcome_evaluate now source bindings).backlog_eq
  | enqueue source bindings priority =>
    simp only [perform, enqueue]
    cases calculator.settings.deferring with
    | false => exact .idle
    | true => exact .enqueued source bindings priority
  | drain =>
    cases pops : calculator.backlog.pop? with
    | none =>
      simp only [perform, drain, pops]
      exact .idle
    | some popped =>
      obtain ⟨sheet, between, outcome, drained⟩ := calculator.drain_of_pop now pops
      simp only [perform, drained]
      exact .drained pops sheet
  | clearBacklog => exact .cleared
  | clearCaches => exact .idle
  | _ => exact .of_eq (Spares.backlog (calculator.spares_perform now rfl))

/-- No command changes the settings. -/
theorem settings_perform (command : Command) :
    (calculator.perform now command).2.settings = calculator.settings := by
  cases command with
  | evaluate source bindings | explain source bindings =>
    exact (calculator.outcome_evaluate now source bindings).settings_eq
  | enqueue source bindings priority =>
    simp only [perform, enqueue]
    cases calculator.settings.deferring <;> rfl
  | drain =>
    cases pops : calculator.backlog.pop? with
    | none => simp only [perform, drain, pops]
    | some popped =>
      obtain ⟨sheet, between, outcome, drained⟩ := calculator.drain_of_pop now pops
      simp only [perform, drained]
      exact outcome.settings_eq
  | clearBacklog | clearCaches => rfl
  | _ => exact Spares.settings (calculator.spares_perform now rfl)

/-- Every request is accepted under its number, if expressions may be put off. -/
theorem acceptance?_perform (deferring : calculator.settings.deferring = true)
    (command : Command) :
    let exchange := (command, (calculator.perform now command).1)
    acceptance? exchange
      = ((happening? exchange).bind Happening.request?).map fun request =>
          .accepted request.id := by
  cases command with
  | enqueue expression bindings priority =>
    simp only [perform, enqueue, deferring, if_true]
    rfl
  | drain =>
    simp only [perform]
    generalize calculator.drain now = drained
    obtain ⟨_ | ⟨id, sheet⟩, after⟩ := drained <;> rfl
  | _ => rfl

/-- The number of a request is the next one. -/
theorem perform_enqueue (deferring : calculator.settings.deferring = true) (expression : String)
    (bindings : Bindings) (priority : Int) :
    (calculator.perform now (.enqueue expression bindings priority)).1
      = .accepted calculator.backlog.nextId := by
  simp only [perform, enqueue, deferring, if_true, Backlog.push]

/-- Where nothing waits, nothing is drained. -/
theorem perform_drain_nil (nothing : calculator.backlog.waiting = []) :
    (calculator.perform now .drain).1 = .drained none := by
  simp only [perform, drain, Backlog.pop?, nothing]

/-- The first request that waits is drained with the worksheet that an evaluation of it has now. -/
theorem perform_drain_cons {request : Backlog.Request} {rest : List Backlog.Request}
    (first : calculator.backlog.waiting = request :: rest) :
    (calculator.perform now .drain).1
      = .drained (some (request.id,
          (calculator.evaluate now request.expression request.bindings).1)) := by
  simp only [perform, drain, Backlog.pop?, first, evaluate_with_backlog]

/-! ## What commands did to the backlog -/

variable {calculator} {settings : Settings} {supervisor : Supervisor}
  {exchanges : List (Command × Reply)}

/-- A history goes on with what the last command did. -/
theorem history_concat (exchange : Command × Reply) :
    history (exchanges ++ [exchange]) = history exchanges ++ (happening? exchange).toList := by
  cases done : happening? exchange <;> simp [history, done]

/-- The replies to requests go on with the last one. -/
theorem acceptances_concat (exchange : Command × Reply) :
    acceptances (exchanges ++ [exchange])
      = acceptances exchanges ++ (acceptance? exchange).toList := by
  cases done : acceptance? exchange <;> simp [acceptances, done]

/-- Wherever commands lead, the backlog is in accordance with what was asked and replied. -/
theorem Reaches.accounts (reaches : Reaches (fresh settings supervisor) exchanges calculator) :
    calculator.backlog.Accounts (history exchanges) := by
  induction reaches with
  | start => exact Backlog.accounts_empty
  | next _ rewriter now command hypothesis =>
    rw [history_concat]
    exact hypothesis.step (step_perform (employing _ rewriter) now command)

/-- Wherever commands lead, expressions may be put off if they might at first. -/
theorem Reaches.settings_eq (reaches : Reaches (fresh settings supervisor) exchanges calculator) :
    calculator.settings = settings := by
  induction reaches with
  | start => rfl
  | next _ rewriter now command hypothesis =>
    exact (settings_perform (employing _ rewriter) now command).trans hypothesis

/-- The replies to requests are the numbers of the requests. -/
theorem Reaches.acceptances_eq (reaches : Reaches (fresh settings supervisor) exchanges calculator)
    (deferring : settings.deferring = true) :
    acceptances exchanges
      = ((history exchanges).requests.map Backlog.Request.id).map .accepted := by
  induction reaches with
  | start => rfl
  | next reaches rewriter now command hypothesis =>
    rw [acceptances_concat, history_concat, hypothesis]
    have deferring := (congrArg Settings.deferring reaches.settings_eq).trans deferring
    rw [acceptance?_perform (employing _ rewriter) now deferring command]
    cases happening? (command, ((employing _ rewriter).perform now command).1) with
    | none => simp
    | some happening => cases happening <;> simp

/-- Whatever a calculator is asked, it keeps account of what was put off: every request has its
number, waits until it is drained in its turn or cleared away, and when it is drained, the worksheet
of its evaluation is recorded under its number. -/
theorem defers_of_reaches (reaches : Reaches (fresh settings supervisor) exchanges calculator)
    (deferring : settings.deferring = true) : calculator.Defers exchanges := by
  have accounts := reaches.accounts
  have numbers : acceptances exchanges = (List.range calculator.backlog.nextId).map .accepted := by
    rw [reaches.acceptances_eq deferring, accounts.numbered]
  have length_eq : (acceptances exchanges).length = calculator.backlog.nextId := by simp [numbers]
  constructor
  case numbers => rw [length_eq, numbers]
  case next =>
    intro rewriter now expression bindings priority
    have deferring := (congrArg Settings.deferring reaches.settings_eq).trans deferring
    rw [length_eq]
    exact perform_enqueue (calculator.employing rewriter) now deferring expression bindings priority
  case fates => exact fun request made => accounts.existsUnique_fate made
  case once => exact accounts.length_sheets_le
  case results =>
    intro request fate meets rewriter now
    exact congrArg Reply.result (accounts.result?_eq meets)
  case unknown =>
    intro id ungiven rewriter now
    refine congrArg Reply.result (accounts.result?_eq_none fun draining drained same => ?_)
    obtain ⟨request, made, sameId⟩ := accounts.grounded draining drained
    have given := accounts.id_lt_nextId (Backlog.mem_requests_of_current made)
    omega
  case status =>
    intro rewriter now
    exact congrArg Reply.status accounts.status_eq
  case idle =>
    intro nothing rewriter now
    have empty : calculator.backlog.waiting = [] := (nothing ▸ accounts.waiting).eq_nil
    exact perform_drain_nil (calculator.employing rewriter) now empty
  case drains =>
    intro something rewriter now
    cases first : calculator.backlog.waiting with
    | nil => exact absurd (first ▸ accounts.waiting).nil_eq.symm something
    | cons request rest =>
      have waits := accounts.waiting.mem_iff.1 (first ▸ List.mem_cons_self)
      exact ⟨request, waits, accounts.leads_head first,
        perform_drain_cons (calculator.employing rewriter) now first⟩

/-- A request that waits behind another one of the same priority, and one that is more urgent. -/
theorem defers_of_reaches_three :
    let first := fresh .standard (.standard .identity 256)
    let commands := [(0, Command.enqueue "1" .empty (-1)), (0, .enqueue "2" .empty (-1)),
      (0, .enqueue "3" .empty 7), (0, .drain), (0, .clearBacklog), (0, .enqueue "4" .empty 0)]
    (first.run commands).2.Defers ((commands.map Prod.snd).zip (first.run commands).1) :=
  defers_of_reaches (reaches_run _ _) rfl

end Workings.Calculator
