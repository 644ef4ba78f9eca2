/-!
# Formulas

Named identities of school mathematics. A formula says by a pattern what it looks like and by a
template what it says.
-/

namespace Workings

/-- A named identity. -/
structure Formula where
  name : String
  /-- The pattern that expressions are searched for. Its groups stand for the variables of the
  formula. -/
  pattern : String
  /-- The other side of the identity, where a backslash and a digit stand for a group. -/
  replacement : String
  /-- The school grade in which the formula is taught. -/
  grade : Nat
  category : String
  description : String
  /-- A word that makes the formula more likely where it occurs. -/
  topic : String
  deriving Repr, DecidableEq

end Workings
