/-!
# Overflow

Exponents and positions are whole numbers of 64 bits, and a step that leaves their range breaks a
computation off.
-/

namespace Workings

/-- A step that leaves the range of 64-bit whole numbers. -/
inductive Overflow where
  | subtracting
  | adding
  deriving Repr, DecidableEq

/-- The text of an overflow. -/
def Overflow.message : Overflow → String
  | .subtracting => "attempt to subtract with overflow"
  | .adding => "attempt to add with overflow"

end Workings
