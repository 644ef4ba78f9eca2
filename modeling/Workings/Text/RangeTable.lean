/-!
# Tables of code points

A property of characters is given by the ranges of code points that have it.
-/

namespace Workings.Text

/-- Ranges of code points, each from its first to its last member. -/
abbrev RangeTable := List (Nat × Nat)

/-- Whether the character lies in one of the ranges. -/
def RangeTable.has (table : RangeTable) (char : Char) : Bool :=
  table.any fun range => range.1 ≤ char.toNat && char.toNat ≤ range.2

/-- A character is in a table exactly when one of its ranges holds the code point. -/
theorem RangeTable.has_iff {table : RangeTable} {char : Char} :
    table.has char = true ↔
      ∃ range ∈ table, range.1 ≤ char.toNat ∧ char.toNat ≤ range.2 := by
  simp [RangeTable.has]

/-- Code points `first`, `first + step`, up to `last`, each paired with the one `offset` away. -/
structure CodeRun where
  first : Nat
  last : Nat
  step : Nat
  offset : Int

/-- Whether the code point is one of the run. -/
def CodeRun.has (run : CodeRun) (code : Nat) : Bool :=
  run.first ≤ code && code ≤ run.last && (code - run.first) % run.step == 0

/-- The members of the run. -/
def CodeRun.codes (run : CodeRun) : List Nat :=
  (List.range ((run.last - run.first) / run.step + 1)).map fun index => run.first + run.step * index

/-- The code point that a member of the run is paired with. -/
def CodeRun.partner (run : CodeRun) (code : Nat) : Nat :=
  (code + run.offset).toNat

/-- The character paired with a code point, if this is one of the run. -/
def CodeRun.image? (run : CodeRun) (code : Nat) : Option Char :=
  if run.has code then some (Char.ofNat (run.partner code)) else none

end Workings.Text
