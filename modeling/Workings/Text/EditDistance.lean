/-!
# Edit distance

The least number of characters to insert, delete or replace so that one text becomes another.
-/

namespace Workings.Text

/-- The next row of the table of distances: one more character of the left text against every
beginning of the right text. `diagonal` is the entry above and to the left, `left` the entry just
computed. -/
def distanceRow (char : Char) : (diagonal left : Nat) → List Char → List Nat → List Nat
  | diagonal, left, other :: others, above :: row =>
    let replaced := if char = other then diagonal else diagonal + 1
    let entry := min replaced (min (above + 1) (left + 1))
    entry :: distanceRow char above entry others row
  | _, _, _, _ => []

/-- The table of distances, one row for every character of the left text. A row is kept as its first
entry and the entries for the beginnings of the right text. -/
def distanceTable (right : List Char) : (first : Nat) → (row : List Nat) → List Char → Nat
  | first, row, [] => row.getLastD first
  | first, row, char :: rest =>
    distanceTable right (first + 1) (distanceRow char first (first + 1) right row) rest

/-- The least number of edits that turn one text into the other. -/
def editDistance (left right : String) : Nat :=
  let target := right.toList
  distanceTable target 0 ((List.range target.length).map (· + 1)) left.toList

end Workings.Text
