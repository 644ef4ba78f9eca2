import Workings.Crash
import Workings.Expr.Literal
import Workings.Formula.Detection

/-!
# Rewriting by formulas

A rewriter is handed an expression, a formula and the finding of the formula in the expression. It
answers with the expression to go on with.
-/

namespace Workings

/-- What may be made of an expression by a formula that was found in it. -/
abbrev Rewriter := Expr → Formula → Finding → Except Crash Expr

namespace Rewriter

/-- Leaves every expression as it is. -/
def identity : Rewriter :=
  fun expr _ _ => .ok expr

/-- Fills in a template: a backslash and a digit stand for the text of a group, and for nothing if
the group took no part. -/
def fillIn (captures : List (Nat × String)) : List Char → List Char
  | [] => []
  | '\\' :: digit :: rest =>
    if digit.isDigit then
      ((captures.lookup (digit.toNat - '0'.toNat)).getD "").toList ++ fillIn captures rest
    else '\\' :: fillIn captures (digit :: rest)
  | char :: rest => char :: fillIn captures rest

/-- Replaces an expression by the filled-in template of the formula, and leaves it as it is where
that is no expression. -/
def byTemplate : Rewriter :=
  fun expr formula finding =>
    let source := String.ofList (fillIn finding.captures formula.replacement.toList)
    match Expr.read source Expr.defaultCeiling with
    | .ok rewritten => .ok rewritten
    | .error _ => .ok expr

end Rewriter

end Workings
