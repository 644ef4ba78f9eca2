import Workings.Number.Layout
import Workings.Number.Reading
import Workings.Text.Alphabetic
import Workings.Text.Blank

/-!
# Values

An expression is worth a number, or a text that stands for what has no number: an expression with
unknown names, or the message of what went wrong.
-/

namespace Workings

/-- What an expression is worth. -/
inductive Value where
  | number (value : Float)
  | symbolic (text : String)
  deriving Repr, Inhabited

namespace Value

/-- Whether the value is a number. -/
def isNumeric : Value → Bool
  | .number _ => true
  | .symbolic _ => false

/-- The number, if the value is one. -/
def number? : Value → Option Float
  | .number value => some value
  | .symbolic _ => none

/-- The text of the value. -/
def text : Value → String
  | .number value => Number.text value
  | .symbolic text => text

/-- The value of a text that a rule produced: a finite number if it reads as one, blanks around it
aside. -/
def ofText (source : String) : Value :=
  match Number.read? (String.ofList (Text.trim source.toList)) with
  | some value => if value.isFinite then .number value else .symbolic source
  | none => .symbolic source

end Value

/-- The kinds of results. -/
inductive ResultKind where
  | numeric
  /-- The result contains names or words. -/
  | symbolic
  /-- The result is made of numbers but is not reduced to one, such as `(-8)^0.5`. -/
  | mixed
  deriving Repr, DecidableEq

/-- The kind of a value: a text with a letter in it is symbolic. -/
def Value.kind : Value → ResultKind
  | .number _ => .numeric
  | .symbolic text => if text.toList.any Text.isAlphabetic then .symbolic else .mixed

end Workings
