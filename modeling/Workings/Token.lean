import Workings.Span

/-!
# Tokens

The words of an expression, each with its kind and the region of the text it stands in.
-/

namespace Workings

/-- What a token is. -/
inductive TokenKind where
  | number
  /-- A name that is neither a function in front of its argument nor a differential. -/
  | name
  /-- One of `+ - * / ^ % =`. -/
  | operator
  /-- The name of a built-in function in front of a parenthesis. -/
  | function
  | opening
  | closing
  | comma
  | integralSign
  /-- A derivative operator such as `d/dx`. -/
  | derivative
  /-- A differential such as `dx`. -/
  | differential
  deriving Repr, DecidableEq

/-- How messages call a kind of token. -/
def TokenKind.phrase : TokenKind → String
  | .number => "number"
  | .name => "variable"
  | .operator => "operator"
  | .function => "function"
  | .opening => "`(`"
  | .closing => "`)`"
  | .comma => "`,`"
  | .integralSign => "`∫`"
  | .derivative => "derivative"
  | .differential => "differential"

/-- A word of an expression. -/
structure Token where
  kind : TokenKind
  lexeme : String
  span : Span
  deriving Repr, DecidableEq

end Workings
