import Workings.Number.Layout
import Workings.Operator
import Workings.Span

/-!
# Expressions

The tree of an expression. Parentheses are nodes of their own, so that a tree can be written back
the way it was read. Every node knows the region of the text it was read from.
-/

namespace Workings

/-- An expression. -/
inductive Expr where
  | number (value : Float) (span : Span)
  | symbol (name : String) (span : Span)
  | paren (inner : Expr) (span : Span)
  | call (function : String) (functionSpan : Span) (argument : Expr) (parenSpan span : Span)
  | unary (op : UnaryOp) (operand : Expr) (span : Span)
  | binary (op : BinaryOp) (left right : Expr) (span : Span)
  | derivative (wrt : String) (body : Expr) (span : Span)
  | indefinite (wrt : String) (body : Expr) (span : Span)
  | definite (wrt : String) (lower upper body : Expr) (span : Span)
  deriving Repr, Inhabited

namespace Expr

/-- The region an expression was read from. -/
def span : Expr → Span
  | .number _ span | .symbol _ span | .paren _ span | .call _ _ _ _ span | .unary _ _ span
  | .binary _ _ _ span | .derivative _ _ span | .indefinite _ _ span
  | .definite _ _ _ _ span => span

/-- The number of nodes on the longest path to a leaf. -/
def height : Expr → Nat
  | .number _ _ | .symbol _ _ => 1
  | .paren inner _ => inner.height + 1
  | .call _ _ argument _ _ => argument.height + 1
  | .unary _ operand _ => operand.height + 1
  | .binary _ left right _ => max left.height right.height + 1
  | .derivative _ body _ => body.height + 1
  | .indefinite _ body _ => body.height + 1
  | .definite _ lower upper body _ => max (max lower.height upper.height) body.height + 1

/-- The number of nodes. -/
def size : Expr → Nat
  | .number _ _ | .symbol _ _ => 1
  | .paren inner _ => inner.size + 1
  | .call _ _ argument _ _ => argument.size + 1
  | .unary _ operand _ => operand.size + 1
  | .binary _ left right _ => left.size + right.size + 1
  | .derivative _ body _ => body.size + 1
  | .indefinite _ body _ => body.size + 1
  | .definite _ lower upper body _ => lower.size + upper.size + body.size + 1

/-- The expressions right below the top of an expression. -/
def children : Expr → List Expr
  | .number _ _ | .symbol _ _ => []
  | .paren inner _ => [inner]
  | .call _ _ argument _ _ => [argument]
  | .unary _ operand _ => [operand]
  | .binary _ left right _ => [left, right]
  | .derivative _ body _ => [body]
  | .indefinite _ body _ => [body]
  | .definite _ lower upper body _ => [body, lower, upper]

/-- The greatest level of a node in the expressions on a stack, each of which stands at a level of
its own. `greatest` is the greatest level of the nodes that were taken off so far. -/
def deepest (greatest : Nat) : (stack : List (Expr × Nat)) → Nat
  | [] => greatest
  | (expr, level) :: stack =>
    let below := expr.children.map fun child => (child, level + 1)
    deepest (max greatest level) (below.reverse ++ stack)
termination_by stack => stack.foldr (fun (expr, _) total => expr.size + total) 0
decreasing_by
  cases expr <;> simp [children, size] <;> omega

/-- The height of an expression, measured with an explicit stack. -/
def measuredHeight (expr : Expr) : Nat :=
  deepest 0 [(expr, 1)]

/-- The expression inside any parentheses around it. -/
def innermost : Expr → Expr
  | .paren inner _ => inner.innermost
  | expr => expr

/-- An integral bound is written between parentheses if it is a sum, product, power or signed. -/
def boundText (bound : Expr) (written : String) : String :=
  match bound with
  | .unary .. | .binary .. => "(" ++ written ++ ")"
  | _ => written

/-- The canonical text of an expression: numbers in their shortest form, spaces around operators
between operands, and no parentheses but those of the tree and around the bounds of integrals. -/
def text : Expr → String
  | .number value _ => Number.text value
  | .symbol name _ => name
  | .paren inner _ => "(" ++ inner.text ++ ")"
  | .call function _ argument _ _ => function ++ "(" ++ argument.text ++ ")"
  | .unary op operand _ => op.symbol ++ operand.text
  | .binary op left right _ => left.text ++ " " ++ op.symbol ++ " " ++ right.text
  | .derivative wrt body _ => "d/d" ++ wrt ++ "(" ++ body.text ++ ")"
  | .indefinite wrt body _ => "∫" ++ body.text ++ " d" ++ wrt
  | .definite wrt lower upper body _ =>
    "∫_" ++ boundText lower lower.text ++ "^" ++ boundText upper upper.text ++ " " ++ body.text
      ++ " d" ++ wrt

/-- The expression with every region moved right. -/
def shift (offset : Nat) : Expr → Expr
  | .number value span => .number value (span.shift offset)
  | .symbol name span => .symbol name (span.shift offset)
  | .paren inner span => .paren (inner.shift offset) (span.shift offset)
  | .call function functionSpan argument parenSpan span =>
    .call function (functionSpan.shift offset) (argument.shift offset) (parenSpan.shift offset)
      (span.shift offset)
  | .unary op operand span => .unary op (operand.shift offset) (span.shift offset)
  | .binary op left right span =>
    .binary op (left.shift offset) (right.shift offset) (span.shift offset)
  | .derivative wrt body span => .derivative wrt (body.shift offset) (span.shift offset)
  | .indefinite wrt body span => .indefinite wrt (body.shift offset) (span.shift offset)
  | .definite wrt lower upper body span =>
    .definite wrt (lower.shift offset) (upper.shift offset) (body.shift offset)
      (span.shift offset)

/-- Every expression has a node. -/
theorem height_pos (expr : Expr) : 0 < expr.height := by
  cases expr <;> simp [height]

/-- The innermost expression stands in no parentheses. -/
theorem innermost_ne_paren (expr inner : Expr) (span : Span) :
    expr.innermost ≠ .paren inner span := by
  fun_induction innermost expr <;> simp_all

end Expr

end Workings
