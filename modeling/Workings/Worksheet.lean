import Workings.Formula.Detection
import Workings.Step
import Workings.Value

/-!
# Worksheets

A worksheet is what is handed out for an expression: its answer, the steps to it, and the formulas
that were found on the way. A worksheet that failed has nothing but the reason.
-/

namespace Workings

/-- A step, with the formulas found in its result. -/
structure Line extends Step where
  findings : List Finding
  deriving Repr

/-- The bytes of the texts on a line, those about findings aside. -/
def Line.byteSize (line : Line) : Nat :=
  line.expression.utf8ByteSize + line.result.utf8ByteSize + line.explanation.utf8ByteSize

/-- What is handed out for an expression. -/
inductive Worksheet where
  /-- The expression could not be evaluated at all. -/
  | failed (expression message : String)
  /-- The expression has a value. The findings are those of the whole expression. -/
  | finished (expression : String) (value : Value) (findings : List Finding) (lines : List Line)
      (warnings : List String)
  deriving Repr

namespace Worksheet

/-- The expression as it was asked for. -/
def expression : Worksheet → String
  | failed expression _ => expression
  | finished expression _ _ _ _ => expression

/-- The text of the answer. -/
def answer : Worksheet → String
  | failed _ _ => "ERROR"
  | finished _ value _ _ _ => value.text

/-- The kind of the answer. -/
def kind : Worksheet → ResultKind
  | failed _ _ => .symbolic
  | finished _ value _ _ _ => value.kind

/-- The formulas found in the whole expression, the most likely first. -/
def findings : Worksheet → List Finding
  | failed _ _ => []
  | finished _ _ findings _ _ => findings

/-- The steps to the answer. -/
def lines : Worksheet → List Line
  | failed _ _ => []
  | finished _ _ _ lines _ => lines

/-- Whether the answer was found without an error on the way. -/
def isExact : Worksheet → Bool
  | failed _ _ => false
  | finished _ _ _ lines _ => lines.all fun line => !line.isError

/-- Why the expression could not be evaluated. -/
def failure? : Worksheet → Option String
  | failed _ message => some message
  | finished _ _ _ _ _ => none

/-- Advice about the expression and its answer. -/
def warnings : Worksheet → List String
  | failed _ _ => []
  | finished _ _ _ _ warnings => warnings

/-- The bytes of the texts on a worksheet, those about findings and the record itself aside. -/
def byteSize (sheet : Worksheet) : Nat :=
  sheet.expression.utf8ByteSize + sheet.answer.utf8ByteSize
    + sheet.lines.foldr (fun line bytes => line.byteSize + bytes) 0

/-- The line that says that a worksheet is handed out again. -/
def recallLine (expression : String) (value : Value) (lines : List Line) : Line where
  number := lines.length + 1
  expression
  result := value.text
  operation := .recalled
  isNumeric := value.isNumeric
  explanation := "Cached result: " ++ value.text
  findings := []

/-- The worksheet as it is handed out again when `asked` is entered: with one more line. -/
def recalled (asked : String) : Worksheet → Worksheet
  | failed expression message => failed expression message
  | finished expression value findings lines warnings =>
    finished expression value findings (lines ++ [recallLine asked value lines]) warnings

end Worksheet

end Workings
