/-!
# Engines for patterns

An engine reads patterns and searches texts for them. Nothing else is asked of it than whether a
pattern can be read, how many groups it has, and where its leftmost match in a text is.
-/

namespace Workings

/-- The leftmost match of a pattern in a text. -/
structure Capture where
  /-- How many characters stand in front of the match. -/
  start : Nat
  /-- The texts of the groups in the order of their numbers, the first of which is one. A group that
  took no part has none. -/
  groups : List (Option String)
  deriving Repr, DecidableEq

/-- A pattern that was read. -/
structure Search where
  /-- The number of groups. -/
  groupCount : Nat
  /-- The leftmost match in a text. -/
  leftmost? : String → Option Capture

/-- What reads patterns and searches for them. -/
structure Engine where
  /-- Reads a pattern, if it is one. With `ignoringCase` its letters stand for those of either case,
  unless the pattern itself says otherwise. -/
  compile? : (ignoringCase : Bool) → String → Option Search

end Workings
