import Workings.Number.Reading
import Workings.Overflow
import Workings.Text.DecimalDigit
import Workings.Token.Lexer

/-!
# The shapes that the rules of calculus know

The rules look at the text of an expression without blanks. They tell apart powers of a name, plain
numbers and bare names; exponents are whole numbers of 64 bits.
-/

namespace Workings.Calculus

/-- The least exponent. -/
def leastExponent : Int := -0x8000000000000000

/-- The greatest exponent. -/
def greatestExponent : Int := 0x7fffffffffffffff

/-- The exponent below the given one. -/
def exponentBelow (exponent : Int) : Except Overflow Int :=
  if exponent = leastExponent then .error .subtracting else .ok (exponent - 1)

/-- The exponent above the given one. -/
def exponentAbove (exponent : Int) : Except Overflow Int :=
  if exponent = greatestExponent then .error .adding else .ok (exponent + 1)

/-- Takes digits of any script, with a minus sign or without, off a text. -/
def takeInteger? (chars : List Char) : Option (List Char × List Char) :=
  let (sign, rest) := match chars with
    | '-' :: rest => (['-'], rest)
    | rest => ([], rest)
  let digits := rest.takeWhile Text.isDecimalDigit
  if digits.isEmpty then none else some (sign ++ digits, rest.dropWhile Text.isDecimalDigit)

/-- The value of a written exponent, if its digits are the plain ones and it has 64 bits. -/
def exponentValue? (chars : List Char) : Option Int :=
  let (negative, digits) := Number.splitSign chars
  if digits.isEmpty || !digits.all Char.isDigit then none
  else
    let magnitude : Int := Number.valueOfDigits digits
    let value := if negative then -magnitude else magnitude
    if leastExponent ≤ value ∧ value ≤ greatestExponent then some value else none

/-- Drops one character from the beginning of a text if it stands there. -/
def dropOne (char : Char) : List Char → List Char
  | [] => []
  | first :: rest => if first = char then rest else first :: rest

/-- The written exponent behind a caret: a whole number, plain or in parentheses. Nothing but one
closing parenthesis may follow it. -/
def takeExponent? (chars : List Char) : Option (List Char) := do
  let (digits, rest) ← match chars with
    | '(' :: behind => do
      let (digits, rest) ← takeInteger? behind
      match rest with
      | ')' :: rest => some (digits, rest)
      | _ => none
    | _ => takeInteger? chars
  if (dropOne ')' rest).isEmpty then some digits else none

/-- The name and the written exponent of a text that is a power of a name, such as `x^2`, `(x^3)` or
`x^(-1)`. -/
def powerText? (chars : List Char) : Option (List Char × List Char) := do
  let behind := dropOne '(' chars
  let name := behind.takeWhile Lexer.continuesName
  match name, behind.dropWhile Lexer.continuesName with
  | first :: _, '^' :: rest =>
    if Lexer.startsName first then
      let exponent ← takeExponent? rest
      some (name, exponent)
    else none
  | _, _ => none

/-- The exponent of a text that is a power of the given name. -/
def powerOf? (wrt chars : List Char) : Option Int := do
  let (name, exponent) ← powerText? chars
  if name = wrt then exponentValue? exponent else none

/-- Whether the text is a plain number such as `3`, `2.5` or `-4`, with digits of any script. -/
def isNumber (chars : List Char) : Bool :=
  match takeInteger? chars with
  | none => false
  | some (_, []) => true
  | some (_, '.' :: digits) => !digits.isEmpty && digits.all Text.isDecimalDigit
  | some _ => false

end Workings.Calculus
