import Workings.Expr.Reader
import Workings.Guarded

/-!
# Reading along the tokens with guarded numbers

A walk goes along the tokens of a text with a place: how many tokens are behind it, and in how many
levels it is nested. It looks only at the token it stands in front of. Lengths, levels and heights
are guarded numbers here, and letters are cut out of lexemes by their positions.
-/

namespace Workings

namespace Expr

/-- The greatest level of a node in the expressions on a stack, with guarded levels. -/
def guardedDeepest (greatest : Nat) : (stack : List (Expr × Nat)) → Guarded Nat
  | [] => .ok greatest
  | (expr, level) :: stack => do
    let next ← if expr.children.isEmpty then pure level else Guarded.add level 1
    let below := expr.children.map fun child => (child, next)
    guardedDeepest (max greatest level) (below.reverse ++ stack)
termination_by stack => stack.foldr (fun (expr, _) total => expr.size + total) 0
decreasing_by
  cases expr <;> simp [children, size] <;> omega

/-- The height of an expression, measured with guarded levels. -/
def guardedHeight (expr : Expr) : Guarded Nat :=
  guardedDeepest 0 [(expr, 1)]

/-- The height of an expression, measured unless it is already known. -/
def knownHeight (expr : Expr) : (height? : Option Nat) → Guarded Nat
  | some height => .ok height
  | none => expr.guardedHeight

end Expr

/-- How far a walk has come: the tokens behind it, and the levels around it. -/
structure Place where
  index : Nat
  depth : Nat
  deriving Repr, DecidableEq

/-- What a walk goes along. -/
structure Ground where
  tokens : List Token
  region : Region
  deriving Repr

/-- Goes along tokens from a place to a later one. -/
abbrev Walk := ReaderT Ground (ExceptT Fault (StateT Place Guarded))

namespace Walk

variable {α : Type}

/-- The token in front of which the walk stands. -/
def current : Walk (Option Token) := do
  return (← read).tokens[(← get).index]?

/-- The region of that token, or the end of the text. -/
def here : Walk Span := do
  return Reader.here (← read).region (← current).toList

/-- Fails at that region. -/
def fail (cause : Cause) : Walk α := do
  throw (.within (← here) cause)

/-- Goes past the token. -/
def step : Walk Unit := do
  let place ← get
  let index ← Guarded.add place.index 1
  set { place with index }

/-- Goes past the token, if there is one. -/
def advance : Walk Unit := do
  if (← get).index < (← read).tokens.length then step

/-- Goes past the token and answers it. -/
def next (expected : Expectation) : Walk Token := do
  match ← current with
  | some token =>
    step
    return token
  | none => fail (.endsEarly expected)

/-- Goes past a token of the given kind, and stays in front of any other one. -/
def expect (kind : TokenKind) (expected : Expectation) : Walk Token := do
  let start := (← get).index
  let token ← next expected
  if token.kind = kind then return token
  else
    modify fun place => { place with index := start }
    throw (.within token.span (.unexpected expected token.kind token.lexeme))

/-- Goes on one level further in, if the ceiling allows it. The level is left again even if the walk
in it fails. -/
def nested (walk : Walk α) : Walk α := fun ground place => do
  let ceiling := ground.region.ceiling
  if ceiling ≤ place.depth then fail (.tooDeep ceiling) ground place
  else
    let inside ← Guarded.add place.depth 1
    let (result, after) ← walk ground { place with depth := inside }
    let outside ← Guarded.subtract after.depth 1
    return (result, { after with depth := outside })

/-- What a lexeme says from a position on. -/
def lexemeFrom (start : Nat) (token : Token) : Guarded String := do
  return String.ofList (← Guarded.cutFrom token.lexeme.toList start)

/-- The operator of a level in front of which the walk stands. -/
def operator? (level : Precedence) : Walk (Option (BinaryOp × Span)) := do
  return (Reader.operator? level (← current).toList).map fun (op, span, _) => (op, span)

/-- The sign in front of which the walk stands. -/
def sign? : Walk (Option (UnaryOp × Span)) := do
  return (Reader.sign? (← current).toList).map fun (op, span, _) => (op, span)

/-- Goes on with a chain of operators of one level. The height of the tree so far is measured when
the first operator is met. There are fewer operators than `rounds`. -/
def chainAfter (level : Precedence) (operand : Walk Expr) :
    (rounds : Nat) → (left : Expr) → (height? : Option Nat) → Walk Expr
  | 0, _, _ => throwThe Breakdown .exhausted
  | rounds + 1, left, height? => do
    match ← operator? level with
    | none => return left
    | some (op, span) =>
      advance
      let right ← operand
      let height ← left.knownHeight height?
      let taller ← Guarded.add 1 (max height (← right.guardedHeight))
      if maxHeight < taller then throw (.within span .tooTall)
      else
        let joined := .binary op left right ⟨left.span.start, right.span.stop⟩
        chainAfter level operand rounds joined (some taller)

/-- Goes along operands joined by operators of one level. -/
def chain (level : Precedence) (operand : Walk Expr) : Walk Expr := do
  let first ← operand
  let remaining := (← read).tokens.length - (← get).index
  chainAfter level operand (remaining + 1) first none

/-- Goes along an expression between parentheses. -/
def parenthesized (expression : Walk Expr) : Walk (Expr × Span) := do
  let left ← expect .opening .opening
  let inner ← expression
  let right ← expect .closing .closing
  return (inner, ⟨left.span.start, right.span.stop⟩)

/-- Goes along a call. -/
def call (expression : Walk Expr) : Walk Expr := do
  let function ← expect .function .functionName
  let (argument, parens) ← parenthesized expression
  return .call function.lexeme function.span argument parens ⟨function.span.start, parens.stop⟩

/-- Goes along parentheses. -/
def paren (expression : Walk Expr) : Walk Expr := do
  let (inner, span) ← parenthesized expression
  return .paren inner span

/-- Goes along a derivative of what stands between parentheses. -/
def derivative (expression : Walk Expr) : Walk Expr := do
  let token ← expect .derivative .derivative
  let (body, parens) ← parenthesized expression
  let letter ← lexemeFrom 3 token
  return .derivative letter body ⟨token.span.start, parens.stop⟩

/-- Goes along an integral of what stands between parentheses, up to its differential. -/
def integral (expression : Walk Expr) : Walk Expr := do
  let token ← expect .integralSign .integralSign
  let body ← paren expression
  match ← current with
  | some next =>
    if next.kind = .differential then
      advance
      let letter ← lexemeFrom 1 next
      return .indefinite letter body ⟨token.span.start, next.span.stop⟩
    else fail .missingDifferential
  | none => fail .missingDifferential

/-- The walks along what nests. -/
structure Deeper where
  power : Walk Expr
  expression : Walk Expr

/-- Goes along what nests, one level further in. -/
def nest (deeper : Option Deeper) (walk : Deeper → Walk Expr) : Walk Expr :=
  nested <|
    match deeper with
    | none => throwThe Breakdown .exhausted
    | some walks => walk walks

/-- Goes along what stands between operators. -/
def primary (deeper : Option Deeper) : Walk Expr := do
  match ← current with
  | none => fail (.endsEarly .operand)
  | some token =>
    match token.kind with
    | .number =>
      advance
      match Number.read? token.lexeme with
      | some value => return .number value token.span
      | none => throw (.within token.span (.unexpected .operand token.kind token.lexeme))
    | .name =>
      advance
      return .symbol token.lexeme token.span
    | .differential =>
      advance
      let letter ← lexemeFrom 1 token
      let start ← Guarded.add token.span.start 1
      return .symbol letter ⟨start, token.span.stop⟩
    | .function => nest deeper fun walks => call walks.expression
    | .opening => nest deeper fun walks => paren walks.expression
    | .derivative => nest deeper fun walks => derivative walks.expression
    | .integralSign => nest deeper fun walks => integral walks.expression
    | .operator | .closing | .comma =>
      throw (.within token.span (.unexpected .operand token.kind token.lexeme))

/-- Goes along a chain of powers. -/
def power (deeper : Option Deeper) : Walk Expr :=
  chain .power (primary deeper)

/-- Goes along a power, or a sign and the power it stands in front of. -/
def factor (deeper : Option Deeper) : Walk Expr := do
  match ← sign? with
  | none => power deeper
  | some (op, span) =>
    advance
    let operand ← nest deeper (·.power)
    return .unary op operand ⟨span.start, operand.span.stop⟩

/-- Goes along a chain of products. -/
def term (deeper : Option Deeper) : Walk Expr :=
  chain .factor (factor deeper)

/-- Goes along an expression: a chain of sums. -/
def expression (deeper : Option Deeper) : Walk Expr :=
  chain .term (term deeper)

/-- The walks along what nests where the given number of levels is left. -/
def deeper : (levels : Nat) → Option Deeper
  | 0 => none
  | levels + 1 => some
    { power := fun ground => power (deeper levels) ground
      expression := fun ground => expression (deeper levels) ground }

/-- Answers an expression behind which no token is left. -/
def finish (expr : Expr) : Walk Expr := do
  if (← get).index = (← read).tokens.length then return expr
  else fail .trailing

/-- Goes along an expression that all the tokens belong to. -/
def whole : Walk Expr := do
  finish (← expression (deeper (← read).region.ceiling))

/-- What a walk finds on a ground. -/
def run (walk : Walk α) (ground : Ground) : Guarded (Except Fault α) := do
  let (result, _) ← walk ground ⟨0, 0⟩
  return result

end Walk

end Workings
