import Workings.Evaluation
import Workings.Formula.Rewriting
import Workings.Formula.Standard
import Workings.Logs

/-!
# Supervised evaluation

A supervisor reads an expression, finds formulas in it, lets a rewriter apply the most likely one,
evaluates what comes out of that, and finds formulas in the result of every step.
-/

namespace Workings

/-- Reads and evaluates expressions with the formulas of a catalog. -/
structure Supervisor where
  catalog : Catalog
  /-- What searches for the patterns of the formulas. -/
  engine : Engine := .standard
  detector : Detector := engine.detector catalog
  /-- The detector searches for the formulas of the catalog. -/
  attuned : detector = engine.detector catalog := by rfl
  rewriter : Rewriter := .identity
  /-- How many levels may nest, both in what is read and in what is evaluated. -/
  ceiling : Nat := Expr.defaultCeiling

namespace Supervisor

/-- Parts of a text that mostly are a mistake, and what is said about them. -/
def suspicions : List (String × String) :=
  [("0/0", "Potential division by zero"),
   ("sqrt(-", "Square root of negative number"),
   ("log(0", "Logarithm of non-positive number"),
   ("log(-", "Logarithm of non-positive number")]

/-- What there is to say about suspicious parts of a text, blanks aside. Nothing is said twice. -/
def advice (source : String) : List String :=
  let compact := String.ofList (Text.compact source.toList)
  suspicions.foldl
    (fun said (part, warning) =>
      if Text.contains compact part && !said.contains warning then said ++ [warning] else said)
    []

/-- The detector of the standard catalog. -/
def standardDetector : Detector :=
  .of .standard

/-- A supervisor with the standard catalog. -/
def standard (rewriter : Rewriter) (ceiling : Nat) : Supervisor where
  catalog := .standard
  detector := standardDetector
  rewriter
  ceiling

/-- A supervisor with a catalog of its own. -/
def ofCatalog (catalog : Catalog) (rewriter : Rewriter) (ceiling : Nat) : Supervisor where
  catalog
  rewriter
  ceiling

variable (supervisor : Supervisor)

/-- Reads an expression. -/
def read (source : String) : Except Fault Expr :=
  Expr.read source supervisor.ceiling

/-- The formula to rewrite an expression by: the first one with the name of the most likely
finding. -/
def chosen? (findings : List Finding) : Option (Formula × Finding) := do
  let finding ← findings.head?
  let formula ← supervisor.catalog.named? finding.formula
  return (formula, finding)

/-- Rewrites an expression by the chosen formula, if there is one. -/
def rewrite (expr : Expr) (findings : List Finding) : Except Crash Expr :=
  match supervisor.chosen? findings with
  | some (formula, finding) => supervisor.rewriter expr formula finding
  | none => .ok expr

/-- A step with the formulas that are found in its result. -/
def annotate (step : Step) : Line :=
  { step with findings := supervisor.detector.detect step.result }

/-- The warnings of a worksheet: those of its steps, and the advice about the text. -/
def warnings (source : String) (trace : List Step) : List String :=
  (trace.filter Step.isWarning).map Step.result ++ advice source

/-- The worksheet of an expression that was read, given the formulas found in it. -/
def evaluateRead (source : String) (expr : Expr) (bindings : Bindings) (findings : List Finding) :
    Except Crash Worksheet := do
  let rewritten ← supervisor.rewrite expr findings
  match rewritten.workOut bindings supervisor.ceiling with
  | .ok (value, trace) =>
    return .finished source value findings (trace.map supervisor.annotate) (warnings source trace)
  | .error overflow => throw (.exponent overflow)

/-- The worksheet of a text. Formulas are searched for in its canonical form. -/
def evaluate (source : String) (bindings : Bindings) : Except Crash Worksheet :=
  match supervisor.read source with
  | .ok expr =>
    supervisor.evaluateRead source expr bindings (supervisor.detector.detect expr.text)
  | .error fault => .ok (.failed source fault.message)

/-- What is wrong with a text as an expression. -/
def objections (source : String) : List String :=
  match supervisor.read source with
  | .ok _ => []
  | .error fault => ["Validation error: " ++ fault.message]

end Supervisor

end Workings
