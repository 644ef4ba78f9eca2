import Workings.Overflow

/-!
# Crashes

An evaluation that meets an obstacle goes on with a text in the place of a number. Only two things
break it off: a rule of calculus whose exponent leaves its range, and a rewriter that gives up.
-/

namespace Workings

/-- Why an evaluation broke off. -/
inductive Crash where
  | exponent (overflow : Overflow)
  /-- The rewriter gave up, with words or without. -/
  | rewriter (message? : Option String)
  deriving Repr, DecidableEq

/-- The text of a crash. -/
def Crash.message : Crash → String
  | .exponent overflow => overflow.message
  | .rewriter (some message) => message
  | .rewriter none => "unknown panic"

end Workings
