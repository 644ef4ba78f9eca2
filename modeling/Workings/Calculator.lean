import Workings.Backlog
import Workings.Cache
import Workings.EvaluationKey
import Workings.Settings
import Workings.Supervisor

/-!
# The calculator

A calculator evaluates expressions under a supervisor and remembers what it has read, found and
worked out. Remembering saves work and changes no answer, but that a worksheet that is handed out
again says so in one more line. What fails is logged and not remembered. Times are milliseconds on a
clock that the caller reads.
-/

namespace Workings

/-- A supervisor with its memory. -/
structure Calculator where
  settings : Settings
  supervisor : Supervisor
  /-- Expressions by their text. -/
  expressions : Cache Expr
  /-- Worksheets by the key of the evaluation. -/
  worksheets : Cache Worksheet
  /-- Findings by the text they were searched for in. -/
  findings : Cache (List Finding)
  backlog : Backlog
  logs : Logs

/-- Why a formula could not be applied. -/
inductive Trouble where
  | refused (fault : Fault)
  | broken (crash : Crash)
  deriving Repr, DecidableEq

namespace Calculator

/-- The bytes of an expression in its canonical form. The fixed size of a record is the machine's
and counts as nothing, here and for whatever else is remembered. -/
def expressionSize (expr : Expr) : Nat :=
  expr.text.utf8ByteSize

/-- The bytes of the texts of findings, the records themselves aside. -/
def findingsSize (findings : List Finding) : Nat :=
  findings.foldr
    (fun finding bytes =>
      finding.pattern.utf8ByteSize + finding.expression.utf8ByteSize + bytes)
    0

/-- A calculator that remembers nothing yet. -/
def fresh (settings : Settings) (supervisor : Supervisor) : Calculator where
  settings
  supervisor
  expressions := .empty settings.expressions.limit settings.expressions.lifetime expressionSize
  worksheets := .empty settings.worksheets.limit settings.worksheets.lifetime Worksheet.byteSize
  findings := .empty settings.findings.limit settings.findings.lifetime findingsSize
  backlog := .empty
  logs := .empty

/-- Looks a key up in a cache, if anything is remembered. -/
def lookUp {Content : Type} (settings : Settings) (cache : Cache Content) (now : Nat)
    (key : String) : Option Content × Cache Content :=
  if settings.caching then cache.get now key else (none, cache)

/-- Remembers a value in a cache, if anything is remembered. -/
def remember {Content : Type} (settings : Settings) (cache : Cache Content) (now : Nat)
    (key : String) (value : Content) : Cache Content :=
  if settings.caching then cache.put now key value else cache

/-- Reads an expression. -/
def read (calculator : Calculator) (now : Nat) (source : String) :
    Except Fault Expr × Calculator :=
  let settings := calculator.settings
  match lookUp settings calculator.expressions now source with
  | (some expr, expressions) => (.ok expr, { calculator with expressions })
  | (none, expressions) =>
    match calculator.supervisor.read source with
    | .error fault => (.error fault, { calculator with expressions })
    | .ok expr =>
      (.ok expr,
        { calculator with expressions := remember settings expressions now source expr })

/-- Searches for formulas in a text as it is written. -/
def detect (calculator : Calculator) (now : Nat) (source : String) :
    List Finding × Calculator :=
  let settings := calculator.settings
  match lookUp settings calculator.findings now source with
  | (some found, findings) => (found, { calculator with findings })
  | (none, findings) =>
    let found := calculator.supervisor.detector.detect source
    (found, { calculator with findings := remember settings findings now source found })

/-- Hands out a worksheet that was worked out, and logs it. -/
def handOut (calculator : Calculator) (sheet : Worksheet) : Worksheet × Calculator :=
  (sheet, { calculator with logs := calculator.logs.file sheet })

/-- The worksheet of an evaluation that crashed. -/
def crashed (source : String) (crash : Crash) : Worksheet :=
  .failed source ("Internal error: " ++ crash.message)

/-- Works out an expression. -/
def workOut (calculator : Calculator) (now : Nat) (source : String) (bindings : Bindings) :
    Worksheet × Calculator :=
  match calculator.read now source with
  | (.error fault, calculator) => calculator.handOut (.failed source fault.message)
  | (.ok expr, calculator) =>
    let (found, calculator) := calculator.detect now source
    match calculator.supervisor.evaluateRead source expr bindings found with
    | .error crash => calculator.handOut (crashed source crash)
    | .ok sheet =>
      let key := evaluationKey source bindings.pairs
      let worksheets := remember calculator.settings calculator.worksheets now key sheet
      { calculator with worksheets }.handOut sheet

/-- Evaluates an expression: hands out again what is remembered, and works out what is not. -/
def evaluate (calculator : Calculator) (now : Nat) (source : String) (bindings : Bindings) :
    Worksheet × Calculator :=
  let key := evaluationKey source bindings.pairs
  match lookUp calculator.settings calculator.worksheets now key with
  | (some sheet, worksheets) => (sheet.recalled source, { calculator with worksheets })
  | (none, worksheets) => { calculator with worksheets }.workOut now source bindings

/-- The region of a whole text. -/
def whole (source : String) : Span :=
  ⟨0, source.utf8ByteSize⟩

/-- Rewrites an expression by the named formula and answers its canonical form. Where the formula is
not found in the text, the expression stays as it is. -/
def apply (calculator : Calculator) (now : Nat) (source name : String) :
    Except Trouble String × Calculator :=
  match calculator.read now source with
  | (.error fault, calculator) => (.error (.refused fault), calculator)
  | (.ok expr, calculator) =>
    let catalog := calculator.supervisor.catalog
    match catalog.named? name with
    | none =>
      (.error (.refused (.within (whole source) (.unknownFormula name (catalog.similar name)))),
        calculator)
    | some formula =>
      let (found, calculator) := calculator.detect now source
      match found.find? fun finding => finding.formula = formula.name with
      | none => (.ok expr.text, calculator)
      | some finding =>
        match calculator.supervisor.rewriter expr formula finding with
        | .ok rewritten => (.ok rewritten.text, calculator)
        | .error crash => (.error (.broken crash), calculator)

/-- Puts an expression off and answers its number. -/
def enqueue (calculator : Calculator) (source : String) (bindings : Bindings) (priority : Int) :
    Except Fault Nat × Calculator :=
  if calculator.settings.deferring then
    let (id, backlog) := calculator.backlog.push source bindings priority
    (.ok id, { calculator with backlog })
  else (.error (.within (whole source) .backlogDisabled), calculator)

/-- Evaluates the most urgent expression that was put off, and records its worksheet. -/
def drain (calculator : Calculator) (now : Nat) : Option (Nat × Worksheet) × Calculator :=
  match calculator.backlog.pop? with
  | none => (none, calculator)
  | some (request, backlog) =>
    let (sheet, calculator) :=
      { calculator with backlog }.evaluate now request.expression request.bindings
    (some (request.id, sheet),
      { calculator with backlog := calculator.backlog.record request.id sheet })

/-- Forgets all expressions, worksheets and findings. -/
def clearCaches (calculator : Calculator) : Calculator :=
  { calculator with
    expressions := calculator.expressions.clear
    worksheets := calculator.worksheets.clear
    findings := calculator.findings.clear }

/-- Drops all that was put off, and all worksheets recorded for it. -/
def clearBacklog (calculator : Calculator) : Calculator :=
  { calculator with backlog := calculator.backlog.clear }

/-- Drops all log entries. -/
def clearLogs (calculator : Calculator) : Calculator :=
  { calculator with logs := .empty }

end Calculator

end Workings
