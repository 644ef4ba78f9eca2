import Workings.Expr
import Workings.Number.Reading
import Workings.Token.Lexer

/-!
# Reading expressions from tokens

The grammar has three levels of chains, all of which associate to the left: sums of products of
powers. A sign stands in front of a power and only once. Parentheses, calls, signs, derivatives and
integrals nest, and what is nested is read by the readers of the next level down; where no level is
left, nothing more can nest. So the readers are built from the innermost level outwards.
-/

namespace Workings

/-- Reads something from the beginning of a list of tokens and leaves the rest. -/
abbrev Reader (α : Type) := List Token → Except Fault (α × List Token)

/-- The part of a text that is read: where it ends, and how many levels may nest in it. -/
structure Region where
  stop : Nat
  ceiling : Nat
  deriving Repr

namespace Reader

/-- The region of the next token, or the end of the text. -/
def here (region : Region) : List Token → Span
  | [] => ⟨region.stop, region.stop⟩
  | token :: _ => token.span

/-- Reads one token of the given kind. -/
def expect (region : Region) (kind : TokenKind) (expected : Expectation) : Reader Token
  | [] => .error (.within (here region []) (.endsEarly expected))
  | token :: rest =>
    if token.kind = kind then .ok (token, rest)
    else .error (.within token.span (.unexpected expected token.kind token.lexeme))

/-- The refusal to nest further. -/
def refuse (region : Region) {α : Type} : Reader α := fun tokens =>
  .error (.within (here region tokens) (.tooDeep region.ceiling))

/-- The operator of the given level that stands first, and what follows it. -/
def operator? (level : Precedence) : List Token → Option (BinaryOp × Span × List Token)
  | [] => none
  | token :: rest =>
    if token.kind = .operator then
      match BinaryOp.ofSymbol? token.lexeme with
      | some op => if op.precedence = level then some (op, token.span, rest) else none
      | none => none
    else none

/-- The sign that stands first, and what follows it. -/
def sign? : List Token → Option (UnaryOp × Span × List Token)
  | [] => none
  | token :: rest =>
    if token.kind = .operator then
      (UnaryOp.ofSymbol? token.lexeme).map fun op => (op, token.span, rest)
    else none

/-- Goes on with a chain of operators of one level. `height` is the height of the tree so far; each
operator makes the tree taller than both of its sides, and too tall a tree is refused. -/
def chainAfter (level : Precedence) (operand : Reader Expr) :
    (budget : Nat) → (left : Expr) → (height : Nat) → Reader Expr
  | 0, left, _, tokens => .ok (left, tokens)
  | budget + 1, left, height, tokens =>
    match operator? level tokens with
    | none => .ok (left, tokens)
    | some (op, span, following) => do
      let (right, rest) ← operand following
      let taller := 1 + max height right.height
      if maxHeight < taller then .error (.within span .tooTall)
      else
        let joined := .binary op left right ⟨left.span.start, right.span.stop⟩
        chainAfter level operand budget joined taller rest

/-- Reads operands joined by operators of one level. Every operator takes a token, so there are no
more operators than tokens. -/
def chain (level : Precedence) (operand : Reader Expr) : Reader Expr := fun tokens => do
  let (first, rest) ← operand tokens
  chainAfter level operand rest.length first first.height rest

/-- The readers that nested parts are read with. -/
structure Deeper where
  power : Reader Expr
  expression : Reader Expr

/-- Reads an expression between parentheses. The region goes from one parenthesis to the other. -/
def parenthesized (region : Region) (expression : Reader Expr) : Reader (Expr × Span) :=
  fun tokens => do
    let (left, rest) ← expect region .opening .opening tokens
    let (inner, rest) ← expression rest
    let (right, rest) ← expect region .closing .closing rest
    return ((inner, ⟨left.span.start, right.span.stop⟩), rest)

/-- Reads a call: a name and its argument. -/
def call (region : Region) (expression : Reader Expr) : Reader Expr := fun tokens => do
  let (function, rest) ← expect region .function .functionName tokens
  let ((argument, parens), rest) ← parenthesized region expression rest
  return (.call function.lexeme function.span argument parens
    ⟨function.span.start, parens.stop⟩, rest)

/-- Reads parentheses. -/
def paren (region : Region) (expression : Reader Expr) : Reader Expr := fun tokens => do
  let ((inner, span), rest) ← parenthesized region expression tokens
  return (.paren inner span, rest)

/-- The letter that a derivative operator such as `d/dx` names. -/
def derivativeLetter (token : Token) : String :=
  String.ofList (token.lexeme.toList.drop 3)

/-- The letter that a differential such as `dx` names. -/
def differentialLetter (token : Token) : String :=
  String.ofList (token.lexeme.toList.drop 1)

/-- Reads a derivative of what stands between parentheses. -/
def derivative (region : Region) (expression : Reader Expr) : Reader Expr := fun tokens => do
  let (token, rest) ← expect region .derivative .derivative tokens
  let ((body, parens), rest) ← parenthesized region expression rest
  return (.derivative (derivativeLetter token) body ⟨token.span.start, parens.stop⟩, rest)

/-- Reads an integral of what stands between parentheses, up to its differential. -/
def integral (region : Region) (expression : Reader Expr) : Reader Expr := fun tokens => do
  let (token, rest) ← expect region .integralSign .integralSign tokens
  let (body, rest) ← paren region expression rest
  match rest with
  | next :: rest =>
    if next.kind = .differential then
      return (.indefinite (differentialLetter next) body ⟨token.span.start, next.span.stop⟩, rest)
    else .error (.within next.span .missingDifferential)
  | [] => .error (.within (here region []) .missingDifferential)

/-- Reads what nests, if a level is left for it. -/
def nest (region : Region) (deeper : Option Deeper) (reader : Reader Expr → Reader Expr) :
    Reader Expr :=
  match deeper with
  | none => refuse region
  | some readers => reader readers.expression

/-- Reads what stands between operators: a number, a name, or one of the nesting forms. A
differential on its own stands for its letter. -/
def primary (region : Region) (deeper : Option Deeper) : Reader Expr
  | [] => .error (.within (here region []) (.endsEarly .operand))
  | token :: rest =>
    match token.kind with
    | .number =>
      match Number.read? token.lexeme with
      | some value => .ok (.number value token.span, rest)
      | none => .error (.within token.span (.unexpected .operand token.kind token.lexeme))
    | .name => .ok (.symbol token.lexeme token.span, rest)
    | .differential =>
      .ok (.symbol (differentialLetter token) ⟨token.span.start + 1, token.span.stop⟩, rest)
    | .function => nest region deeper (call region) (token :: rest)
    | .opening => nest region deeper (paren region) (token :: rest)
    | .derivative => nest region deeper (derivative region) (token :: rest)
    | .integralSign => nest region deeper (integral region) (token :: rest)
    | .operator | .closing | .comma =>
      .error (.within token.span (.unexpected .operand token.kind token.lexeme))

/-- Reads a chain of powers. -/
def power (region : Region) (deeper : Option Deeper) : Reader Expr :=
  chain .power (primary region deeper)

/-- Reads a power, or a sign and the power it stands in front of. -/
def factor (region : Region) (deeper : Option Deeper) : Reader Expr := fun tokens =>
  match sign? tokens with
  | none => power region deeper tokens
  | some (op, span, following) =>
    match deeper with
    | none => refuse region following
    | some readers => do
      let (operand, rest) ← readers.power following
      return (.unary op operand ⟨span.start, operand.span.stop⟩, rest)

/-- Reads a chain of products. -/
def term (region : Region) (deeper : Option Deeper) : Reader Expr :=
  chain .factor (factor region deeper)

/-- Reads an expression: a chain of sums. -/
def expression (region : Region) (deeper : Option Deeper) : Reader Expr :=
  chain .term (term region deeper)

/-- The readers for what nests where the given number of levels is left. -/
def deeper (region : Region) : (levels : Nat) → Option Deeper
  | 0 => none
  | levels + 1 => some
    { power := fun tokens => power region (deeper region levels) tokens
      expression := fun tokens => expression region (deeper region levels) tokens }

/-- Reads an expression that all the tokens belong to. -/
def whole (region : Region) (tokens : List Token) : Except Fault Expr := do
  let (expr, rest) ← expression region (deeper region region.ceiling) tokens
  match rest with
  | [] => return expr
  | token :: _ => .error (.within token.span .trailing)

end Reader

/-- Reads a text that begins at the given position of its source by the grammar alone. -/
def Expr.readRegion (position : Nat) (chars : List Char) (ceiling : Nat) : Except Fault Expr := do
  let tokens ← Token.scan? position chars
  Reader.whole ⟨position + byteLength chars, ceiling⟩ tokens

end Workings
