import Workings.Text.CaseFamily
import Workings.Text.CharSet

/-!
# Sets that ignore case

Where case is ignored, a set stands for all characters that differ from a member in case alone. So
every family of letters that meets the set is taken in as a whole.
-/

namespace Workings

/-- The families of plain letters: each capital with its small letter. -/
def Text.plainFamilies : List (List Nat) :=
  (List.range 26).map fun index => ['A'.toNat + index, 'a'.toNat + index]

namespace CharSet

/-- The place behind the last member of a set, if there is one. -/
def stop? (set : CharSet) : Option Nat :=
  if set.changes.length % 2 = 0 then some (set.changes.getLastD 0) else none

/-- The families that may meet a set: those whose smallest member lies before the end of the set.
The families are given in the order of their smallest members. -/
def within (set : CharSet) (families : List (List Nat)) : List (List Nat) :=
  match set.stop? with
  | some stop => families.takeWhile fun family => family.headD 0 < stop
  | none => families

/-- The set together with every family that meets it. -/
def foldedBy (families : List (List Nat)) (set : CharSet) : CharSet :=
  set.union (.ofCodes ((set.within families).filter fun family => family.any set.hasCode).flatten)

/-- The set together with all characters that differ from its members in case alone. -/
def folded : CharSet → CharSet :=
  foldedBy Text.caseFamilies

/-- The set together with all plain letters that differ from its members in case alone. -/
def foldedPlain : CharSet → CharSet :=
  foldedBy Text.plainFamilies

end CharSet

end Workings
