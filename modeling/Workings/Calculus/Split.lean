/-!
# Splitting at the top level

A sum or product is split at those of its operators that stand outside parentheses.
-/

namespace Workings.Calculus

/-- How a character changes the number of open parentheses. -/
def depthAfter (depth : Int) (char : Char) : Int :=
  if char = '(' then depth + 1 else if char = ')' then depth - 1 else depth

/-- The parts between the operators that stand outside parentheses, given how many parentheses are
open already. There is always a first part. -/
def splitFrom (op : Char) : (depth : Int) → List Char → List Char × List (List Char)
  | _, [] => ([], [])
  | depth, char :: rest =>
    let (first, others) := splitFrom op (depthAfter depth char) rest
    if char = op ∧ depth = 0 then ([], first :: others) else (char :: first, others)

/-- The parts of a text between the operators that stand outside parentheses. -/
def splitTop (op : Char) (chars : List Char) : List (List Char) :=
  let (first, others) := splitFrom op 0 chars
  first :: others

/-- The two factors of a text that is a product of exactly two. -/
def twoFactors? (chars : List Char) : Option (List Char × List Char) :=
  match splitTop '*' chars with
  | [left, right] => if left.isEmpty || right.isEmpty then none else some (left, right)
  | _ => none

/-- The addends of a text that is a sum of at least two. -/
def addends? (chars : List Char) : Option (List (List Char)) :=
  let parts := splitTop '+' chars
  if parts.length < 2 || parts.any List.isEmpty then none else some parts

end Workings.Calculus
