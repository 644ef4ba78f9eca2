import Workings.Calculator

/-!
# Sessions

A session is a sequence of commands to one calculator, each at a time on the clock. Every command
has one reply, and leaves a calculator to which the next one is given.
-/

namespace Workings.Calculator

/-- What a calculator may be asked to do. -/
inductive Command where
  | evaluate (expression : String) (bindings : Bindings)
  /-- Evaluates, and asks for nothing but the answer and the steps. -/
  | explain (expression : String) (bindings : Bindings)
  | parse (expression : String)
  | detect (expression : String)
  | apply (expression formula : String)
  /-- Asks whether a text can be read. -/
  | validate (expression : String)
  /-- Asks for suspicious parts of a text. -/
  | check (expression : String)
  | enqueue (expression : String) (bindings : Bindings) (priority : Int)
  | drain
  /-- Asks for the worksheet recorded under a number. -/
  | result (id : Nat)
  | status
  | clearBacklog
  | clearCaches
  | clearLogs

/-- What a calculator replies. -/
inductive Reply where
  | worksheet (sheet : Worksheet)
  | explanation (answer : String) (lines : List Line)
  | expression (expr : Expr)
  | findings (found : List Finding)
  | text (text : String)
  | refused (fault : Fault)
  | broken (crash : Crash)
  /-- Whether all is well with a text, and what is not. -/
  | verdict (sound : Bool) (remarks : List String)
  | accepted (id : Nat)
  | drained (next? : Option (Nat × Worksheet))
  | result (sheet? : Option Worksheet)
  | status (status : Backlog.Status)
  | done

/-- The verdict of remarks: all is well if there are none. -/
def Reply.ofRemarks (remarks : List String) : Reply :=
  .verdict remarks.isEmpty remarks

/-- Carries out a command. -/
def perform (calculator : Calculator) (now : Nat) : Command → Reply × Calculator
  | .evaluate source bindings =>
    let (sheet, calculator) := calculator.evaluate now source bindings
    (.worksheet sheet, calculator)
  | .explain source bindings =>
    let (sheet, calculator) := calculator.evaluate now source bindings
    (.explanation sheet.answer sheet.lines, calculator)
  | .parse source =>
    match calculator.read now source with
    | (.ok expr, calculator) => (.expression expr, calculator)
    | (.error fault, calculator) => (.refused fault, calculator)
  | .detect source =>
    let (found, calculator) := calculator.detect now source
    (.findings found, calculator)
  | .apply source name =>
    match calculator.apply now source name with
    | (.ok text, calculator) => (.text text, calculator)
    | (.error (.refused fault), calculator) => (.refused fault, calculator)
    | (.error (.broken crash), calculator) => (.broken crash, calculator)
  | .validate source => (.ofRemarks (calculator.supervisor.objections source), calculator)
  | .check source => (.ofRemarks (Supervisor.advice source), calculator)
  | .enqueue source bindings priority =>
    match calculator.enqueue source bindings priority with
    | (.ok id, calculator) => (.accepted id, calculator)
    | (.error fault, calculator) => (.refused fault, calculator)
  | .drain =>
    let (next?, calculator) := calculator.drain now
    (.drained next?, calculator)
  | .result id => (.result (calculator.backlog.result? id), calculator)
  | .status => (.status calculator.backlog.status, calculator)
  | .clearBacklog => (.done, calculator.clearBacklog)
  | .clearCaches => (.done, calculator.clearCaches)
  | .clearLogs => (.done, calculator.clearLogs)

/-- The replies to commands, each given with its time, and the calculator they leave. -/
def run (calculator : Calculator) : List (Nat × Command) → List Reply × Calculator
  | [] => ([], calculator)
  | (now, command) :: rest =>
    let (reply, calculator) := calculator.perform now command
    let (replies, calculator) := calculator.run rest
    (reply :: replies, calculator)

end Workings.Calculator
