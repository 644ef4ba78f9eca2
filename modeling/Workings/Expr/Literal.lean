import Workings.Expr.Reader
import Workings.Span.Slice
import Workings.Text.Blank

/-!
# Whole texts that are one derivative or one integral

A text that is a derivative or an integral from its first character to its last is split as text
before its parts are read. So derivatives may be taken by names of several letters, and integrals
may have bounds. A text of another shape is left to the grammar.
-/

namespace Workings.Expr

/-- A name: a letter or underscore, and letters, digits and underscores. -/
def isIdentifier : List Char → Bool
  | [] => false
  | char :: rest => Lexer.startsName char && rest.all Lexer.continuesName

/-- Splits a text behind the parenthesis that closes the given number of open ones. The first part
ends in front of that parenthesis. -/
def splitClosing : (depth : Nat) → List Char → Option (List Char × List Char)
  | _, [] => none
  | depth, '(' :: rest =>
    (splitClosing (depth + 1) rest).map fun (inside, after) => ('(' :: inside, after)
  | 0, ')' :: rest => some ([], rest)
  | depth + 1, ')' :: rest =>
    (splitClosing depth rest).map fun (inside, after) => (')' :: inside, after)
  | depth, char :: rest =>
    (splitClosing depth rest).map fun (inside, after) => (char :: inside, after)

/-- The parts of a text that is one derivative. -/
structure DerivativeText where
  wrt : List Char
  body : List Char
  deriving Repr, DecidableEq

/-- Splits a text of the form `d/d<name>(<body>)` whose last character closes the parenthesis behind
the name. -/
def DerivativeText.split? : List Char → Option DerivativeText
  | 'd' :: '/' :: 'd' :: rest =>
    let wrt := rest.takeWhile (· ≠ '(')
    match rest.dropWhile (· ≠ '(') with
    | [] => none
    | _ :: behind =>
      if isIdentifier wrt then
        match splitClosing 0 behind with
        | some (body, []) => some ⟨wrt, body⟩
        | _ => none
      else none
  | _ => none

/-- The parts of a text that is one integral, all but its sign: the letter of its differential, and
the body in front of the blanks before it. -/
structure IntegralText where
  wrt : Char
  body : List Char
  deriving Repr, DecidableEq

/-- Splits a text of the form `∫<body> d<letter>`. -/
def IntegralText.split? : List Char → Option IntegralText
  | '∫' :: rest =>
    match rest.reverse with
    | letter :: 'd' :: before =>
      let body := (before.dropWhile Text.isBlank).reverse
      if Lexer.isLetter letter && body.length < before.length then some ⟨letter, body⟩ else none
    | _ => none
  | _ => none

/-- The parts of the body of an integral with bounds. -/
structure BoundedText where
  lower : List Char
  upper : List Char
  body : List Char
  deriving Repr, DecidableEq

/-- Splits off the lower bound: it ends at the first caret outside parentheses. -/
def splitCaret : (depth : Int) → List Char → Option (List Char × List Char)
  | _, [] => none
  | depth, char :: rest =>
    if char = '^' ∧ depth = 0 then some ([], rest)
    else
      let depth := if char = '(' then depth + 1 else if char = ')' then depth - 1 else depth
      (splitCaret depth rest).map fun (bound, after) => (char :: bound, after)

/-- Splits off the upper bound: it ends at the first blank outside parentheses, but is not empty.
`begun` tells whether a character of it was already seen. -/
def splitBlank (begun : Bool) : (depth : Int) → List Char → Option (List Char × List Char)
  | _, [] => none
  | depth, char :: rest =>
    if Text.isBlank char ∧ depth = 0 ∧ begun then some ([], char :: rest)
    else
      let depth := if char = '(' then depth + 1 else if char = ')' then depth - 1 else depth
      (splitBlank true depth rest).map fun (bound, after) => (char :: bound, after)

/-- Splits a text of the form `<lower>^<upper> <body>`. -/
def BoundedText.split? (chars : List Char) : Option BoundedText := do
  let (lower, behind) ← splitCaret 0 chars
  let (upper, body) ← splitBlank false 0 behind
  return ⟨lower, upper, body⟩

/-- The bytes of the integral sign. -/
def signLength : Nat :=
  '∫'.utf8Size

/-- Reads the bounds and the body of an integral with bounds. `indent` are the blanks in front of
the underscore, `chars` what follows it. -/
def readBounded (wrt : Char) (indent chars : List Char) (span : Span) (ceiling : Nat) :
    Except Fault Expr := do
  let first := signLength + byteLength indent + 1
  match BoundedText.split? chars with
  | none =>
    .error (.within ⟨signLength, first + byteLength chars⟩ (.endsEarly .bounds))
  | some parts =>
    let lower ← readRegion first parts.lower ceiling
    let second := first + byteLength parts.lower + 1
    let upper ← readRegion second parts.upper ceiling
    let third := second + byteLength parts.upper
    let body ← readRegion third parts.body ceiling
    return .definite (String.singleton wrt) lower upper body span

/-- Reads a text that is one derivative. -/
def readDerivative? (chars : List Char) (ceiling : Nat) : Option (Except Fault Expr) := do
  let parts ← DerivativeText.split? chars
  return do
    let body ← readRegion (3 + byteLength parts.wrt + 1) parts.body ceiling
    return .derivative (String.ofList parts.wrt) body ⟨0, byteLength chars⟩

/-- Reads a text that is one integral. -/
def readIntegral? (chars : List Char) (ceiling : Nat) : Option (Except Fault Expr) := do
  let parts ← IntegralText.split? chars
  let span : Span := ⟨0, byteLength chars⟩
  let indent := parts.body.takeWhile Text.isBlank
  return match parts.body.dropWhile Text.isBlank with
    | '_' :: behind => readBounded parts.wrt indent behind span ceiling
    | _ => do
      let body ← readRegion signLength parts.body ceiling
      return .indefinite (String.singleton parts.wrt) body span

/-- Reads an expression in which at most `ceiling` levels nest. -/
def read (source : String) (ceiling : Nat) : Except Fault Expr :=
  let chars := source.toList
  match readDerivative? chars ceiling with
  | some result => result
  | none =>
    match readIntegral? chars ceiling with
    | some result => result
    | none => readRegion 0 chars ceiling

/-- Reads a region of a text by the grammar alone. -/
def readSlice (source : String) (region : Span) (ceiling : Nat) :
    Except Miscut (Except Fault Expr) := do
  return readRegion region.start (← region.slice source.toList) ceiling

/-- The ceiling that requests have unless they name another one. -/
def defaultCeiling : Nat := 256

end Workings.Expr
