import Workings.Overflow
import Workings.Token

/-!
# What can be wrong with a request

A fault is a cause together with the regions of the text it points at. Its wording for one line and
for a longer report are functions of the cause, so no other module writes error texts of its own.
-/

namespace Workings

/-- What the grammar needs at a place where it found something else. -/
inductive Expectation where
  | operand
  | functionName
  | opening
  | closing
  | derivative
  | integralSign
  | bounds
  deriving Repr, DecidableEq

/-- How messages call what was needed. -/
def Expectation.phrase : Expectation → String
  | .operand => "a number, variable, function call, or `(`"
  | .functionName => "a function name"
  | .opening => "an opening parenthesis `(`"
  | .closing => "a closing parenthesis `)`"
  | .derivative => "a derivative such as `d/dx`"
  | .integralSign => "an integral sign `∫`"
  | .bounds => "integral bounds written as `_lower^upper integrand`"

/-- The height that no chain of operators may exceed. -/
def maxHeight : Nat := 400

/-- Why a request cannot be answered. -/
inductive Cause where
  /-- A character that begins no token. -/
  | unknownCharacter (char : Char)
  /-- A token in the place of what was needed. -/
  | unexpected (expected : Expectation) (found : TokenKind) (lexeme : String)
  /-- The text ends where something was needed. -/
  | endsEarly (expected : Expectation)
  /-- Something follows a complete expression. -/
  | trailing
  /-- An integral without its differential. -/
  | missingDifferential
  /-- More nested levels than the ceiling allows. -/
  | tooDeep (ceiling : Nat)
  /-- A chain of operators whose tree would be too tall. -/
  | tooTall
  /-- The calculator keeps no backlog. -/
  | backlogDisabled
  /-- No formula has the name; similar names, the nearest first. -/
  | unknownFormula (name : String) (similar : List String)
  deriving Repr, DecidableEq

namespace Cause

/-- The cause in one line. -/
def phrase : Cause → String
  | .unknownCharacter char => "unexpected character `" ++ String.singleton char ++ "`"
  | .unexpected expected found lexeme =>
    "expected " ++ expected.phrase ++ ", found " ++ found.phrase ++ " `" ++ lexeme ++ "`"
  | .endsEarly expected => "unexpected end of expression, expected " ++ expected.phrase
  | .trailing => "expected end of expression"
  | .missingDifferential => "expected a differential such as `dx` after the integrand"
  | .tooDeep ceiling => "expression is nested more than " ++ toString ceiling ++ " levels deep"
  | .tooTall =>
    "expression is too large: its operators chain more than " ++ toString maxHeight
      ++ " levels deep"
  | .backlogDisabled => "deferred evaluation is disabled"
  | .unknownFormula name [] => "unknown formula `" ++ name ++ "`"
  | .unknownFormula name (nearest :: _) =>
    "unknown formula `" ++ name ++ "` (did you mean `" ++ nearest ++ "`?)"

end Cause

/-- The texts of a report on a fault: a headline, the label of the regions, and advice. -/
structure Report where
  headline : String
  label : String
  advice : Option String
  deriving Repr, DecidableEq

/-- The texts of the report on a cause. -/
def Cause.report : Cause → Report
  | cause@(.unknownCharacter _) =>
    { headline := cause.phrase
      label := "I don't know what this character means"
      advice := some
        "expressions may contain numbers, names, + - * / ^ % = and parentheses" }
  | .unexpected expected found _ =>
    { headline := "unexpected " ++ found.phrase
      label := "I expected to see " ++ expected.phrase ++ " here"
      advice := none }
  | .endsEarly expected =>
    { headline := "unexpected end of expression"
      label := "you might need to add " ++ expected.phrase ++ " here"
      advice := none }
  | .trailing =>
    { headline := Cause.trailing.phrase
      label := "I could not understand the remaining expression here"
      advice := some
        "implicit multiplication is not supported; write `2*x` instead of `2x`" }
  | .missingDifferential =>
    { headline := "missing differential"
      label := "this integral needs a differential"
      advice := some "write the integral as ∫(expression) dx" }
  | .tooDeep ceiling =>
    { headline := "maximum nesting depth exceeded"
      label := "nesting exceeds " ++ toString ceiling ++ " levels here"
      advice := some "try splitting the expression into smaller pieces" }
  | .tooTall =>
    { headline := "expression is too large"
      label := "the chain of operators exceeds " ++ toString maxHeight ++ " levels here"
      advice := some "try splitting the expression into smaller pieces" }
  | .backlogDisabled =>
    { headline := Cause.backlogDisabled.phrase
      label := "this expression cannot be queued"
      advice := some "enable it with EngineConfig::with_deferred(true)" }
  | cause@(.unknownFormula _ similar) =>
    { headline := cause.phrase
      label := "this expression was to be rewritten"
      advice :=
        if similar.isEmpty then none
        else some ("similar formulas: " ++ ", ".intercalate similar) }

/-- A cause and the regions of the text it points at. -/
structure Fault where
  cause : Cause
  spans : List Span
  deriving Repr, DecidableEq

namespace Fault

/-- A fault that points at one region. -/
def within (span : Span) (cause : Cause) : Fault :=
  ⟨cause, [span]⟩

/-- Where the first region begins; a fault without regions points at the beginning. -/
def position (fault : Fault) : Nat :=
  match fault.spans with
  | [] => 0
  | span :: _ => span.start

/-- The fault with every region moved right, for a text that is part of a larger one. -/
def shift (fault : Fault) (offset : Nat) : Fault :=
  { fault with spans := fault.spans.map (·.shift offset) }

/-- The greatest position. -/
def lastPosition : Nat := 0xffffffffffffffff

/-- The fault moved right, unless a position would leave the range of positions. -/
def shift? (fault : Fault) (offset : Nat) : Except Overflow Fault :=
  if fault.spans.all fun span => (span.shift offset).start ≤ lastPosition
      && (span.shift offset).stop ≤ lastPosition
  then .ok (fault.shift offset)
  else .error .adding

/-- The fault in one line, with its position. -/
def message (fault : Fault) : String :=
  fault.cause.phrase ++ " at position " ++ toString fault.position

end Fault

end Workings
