import Workings.Text.RangeTable
import Workings.Text.StepTable

/-!
# Sets of characters

A set is given by the code points at which membership changes, in ascending order: the first one
begins the first run of members, the second one stands behind it, and so on. A character is a member
when an odd number of changes stands at it or before it. All operations on two sets are one sweep
over the changes of both.
-/

namespace Workings

/-- A set of characters. -/
structure CharSet where
  /-- The code points at which membership changes, in ascending order. -/
  changes : List Nat
  deriving Repr, Inhabited, DecidableEq

namespace CharSet

/-- Whether an odd number of changes stands at a code point or before it. -/
def isWithin : (changes : List Nat) → (code : Nat) → Bool
  | [], _ => false
  | change :: rest, code => change ≤ code && !isWithin rest code

/-- Whether a code point belongs to a set. -/
def hasCode (set : CharSet) (code : Nat) : Bool :=
  isWithin set.changes code

/-- Whether a character belongs to a set. -/
def has (set : CharSet) (char : Char) : Bool :=
  set.hasCode char.toNat

/-- The set without members. -/
def empty : CharSet := ⟨[]⟩

/-- The set of all characters. -/
def all : CharSet := ⟨[0]⟩

/-- The characters from the first to the last. -/
def range (first last : Char) : CharSet :=
  ⟨[first.toNat, last.toNat + 1]⟩

/-- The set of one character. -/
def single (char : Char) : CharSet :=
  .range char char

/-- The changes of the ranges, of which the first ends before `stop`. Ranges that touch are joined.
The ranges stand in the order of their first members. -/
def joined (first stop : Nat) : Text.RangeTable → List Nat
  | [] => [first, stop]
  | (low, high) :: rest =>
    if low ≤ stop then joined first (max stop (high + 1)) rest
    else first :: stop :: joined low (high + 1) rest

/-- The members of a table. -/
def ofRanges (table : Text.RangeTable) : CharSet :=
  match table.mergeSort fun left right => left.1 ≤ right.1 with
  | [] => .empty
  | (low, high) :: rest => ⟨joined low (high + 1) rest⟩

/-- The characters with the given code points. -/
def ofCodes (codes : List Nat) : CharSet :=
  .ofRanges (codes.map fun code => (code, code))

/-- The characters whose value in a table meets a condition. -/
def ofSteps {Value : Type} (table : Text.StepTable Value) (condition : Value → Bool) : CharSet :=
  ⟨table.changes condition false⟩

/-- The characters that do not belong to a set. -/
def complement (set : CharSet) : CharSet :=
  match set.changes with
  | 0 :: rest => ⟨rest⟩
  | changes => ⟨0 :: changes⟩

/-- Puts a change before others where it is one. -/
def changeIf (isChange : Bool) (code : Nat) (changes : List Nat) : List Nat :=
  if isChange then code :: changes else changes

/-- Goes over the changes of two sets. `inLeft` and `inRight` tell whether the sweep is within the
sets, and the result changes where the operation on them does. -/
def sweep (op : Bool → Bool → Bool) (inLeft inRight : Bool) : (left right : List Nat) → List Nat
  | [], [] => []
  | change :: left, [] =>
    changeIf (op (!inLeft) inRight != op inLeft inRight) change
      (sweep op (!inLeft) inRight left [])
  | [], change :: right =>
    changeIf (op inLeft (!inRight) != op inLeft inRight) change
      (sweep op inLeft (!inRight) [] right)
  | change :: left, other :: right =>
    if change < other then
      changeIf (op (!inLeft) inRight != op inLeft inRight) change
        (sweep op (!inLeft) inRight left (other :: right))
    else if other < change then
      changeIf (op inLeft (!inRight) != op inLeft inRight) other
        (sweep op inLeft (!inRight) (change :: left) right)
    else
      changeIf (op (!inLeft) (!inRight) != op inLeft inRight) change
        (sweep op (!inLeft) (!inRight) left right)
  termination_by left right => left.length + right.length

/-- The characters for which an operation on the membership in two sets holds. It does not hold for
characters that belong to neither. -/
def combine (op : Bool → Bool → Bool) (left right : CharSet) : CharSet :=
  ⟨sweep op false false left.changes right.changes⟩

/-- The members of either set. -/
def union : CharSet → CharSet → CharSet :=
  combine fun inLeft inRight => inLeft || inRight

/-- The common members of both sets. -/
def intersection : CharSet → CharSet → CharSet :=
  combine fun inLeft inRight => inLeft && inRight

/-- The members of the first set that do not belong to the second. -/
def difference : CharSet → CharSet → CharSet :=
  combine fun inLeft inRight => inLeft && !inRight

/-- The members of one set alone. -/
def symmetricDifference : CharSet → CharSet → CharSet :=
  combine fun inLeft inRight => inLeft != inRight

/-- The members of any of the sets. -/
def unions (sets : List CharSet) : CharSet :=
  sets.foldl union .empty

/-- The ranges between changes. A last change begins a range without end. -/
def rangesOf : List Nat → Text.RangeTable
  | [] => []
  | [first] => [(first, 0x10ffff)]
  | first :: stop :: rest => (first, stop - 1) :: rangesOf rest

/-- The ranges of code points that make up a set. -/
def ranges (set : CharSet) : Text.RangeTable :=
  rangesOf set.changes

/-- Whether all members are plain, that is, below 128. -/
def isPlain (set : CharSet) : Bool :=
  set.ranges.all fun range => range.2 < 0x80

/-- A character belongs to the complement of a set exactly when it does not belong to the set. -/
theorem has_complement (set : CharSet) (char : Char) :
    set.complement.has char = !set.has char := by
  unfold complement has hasCode
  split
  · simp_all [isWithin]
  · simp [isWithin]

/-- No character belongs to the empty set. -/
theorem has_empty (char : Char) : empty.has char = false := rfl

/-- Every character belongs to the set of all. -/
theorem has_all (char : Char) : all.has char = true := by
  simp [has, hasCode, all, isWithin]

end CharSet

end Workings
