import Workings.Worksheet

/-!
# Logs

The logs keep the failures and the warnings of the worksheets that were worked out, in the order in
which that was done.
-/

namespace Workings

/-- Failures and warnings, the oldest first. -/
structure Logs where
  errors : List String
  warnings : List String
  deriving Repr, DecidableEq

namespace Logs

/-- Nothing was logged yet. -/
def empty : Logs := ⟨[], []⟩

/-- How a failure is logged. -/
def errorEntry (message : String) : String :=
  "Evaluation error: " ++ message

/-- Logs the failure or the warnings of a worksheet. -/
def file (logs : Logs) (sheet : Worksheet) : Logs where
  errors := logs.errors ++ (sheet.failure?.map errorEntry).toList
  warnings := logs.warnings ++ sheet.warnings

end Logs

end Workings
