import Std.Data.TreeSet
import Workings.Pattern.Engine
import Workings.Pattern.Program

/-!
# Searching for patterns

The ways through a program are explored depth first, preferred ways before others, from every place
of the text in turn. A pair of instruction and place that was reached once need not be explored
again: had it led to a match, the search would be over. So the search takes no more turns than there
are such pairs, and it finds the leftmost match that the pattern prefers.
-/

namespace Workings

/-- A way that is still to be explored: an instruction, a place, and the places noted so far, the
latest first. -/
structure Way where
  instruction : Nat
  place : Nat
  notes : List (Nat × Nat)

namespace Program

/-- The ways that an instruction leads to; none if it leads nowhere. -/
def follow (text : Array Char) (way : Way) : Instruction → List Way
  | .take set next =>
    match text[way.place]? with
    | some char => if set.has char then [⟨next, way.place + 1, way.notes⟩] else []
    | none => []
  | .test anchor next =>
    if anchor.holds text way.place then [{ way with instruction := next }] else []
  | .note slot next => [⟨next, way.place, (slot, way.place) :: way.notes⟩]
  | .fork preferred other =>
    [{ way with instruction := preferred }, { way with instruction := other }]
  | .accept => []

/-- Explores ways until one is accepted. `visited` holds the pairs of instruction and place that
were reached, each as one number. -/
def explore (program : Program) (text : Array Char) :
    (turns : Nat) → List Way → (visited : Std.TreeSet Nat) → Option Way × Std.TreeSet Nat
  | 0, _, visited => (none, visited)
  | _ + 1, [], visited => (none, visited)
  | turns + 1, way :: ways, visited =>
    let pair := way.place * program.instructions.size + way.instruction
    if visited.contains pair then explore program text turns ways visited
    else
      match program.instructions[way.instruction]? with
      | some .accept => (some way, visited)
      | some instruction =>
        explore program text turns (follow text way instruction ++ ways) (visited.insert pair)
      | none => explore program text turns ways visited

/-- Searches from a place of the text and from those behind it, `left` of them. Every new pair puts
at most two ways before the others, so twice as many turns as there are pairs are enough. -/
def searchFrom (program : Program) (text : Array Char) :
    (left place : Nat) → (visited : Std.TreeSet Nat) → Option (Nat × Way)
  | 0, _, _ => none
  | left + 1, place, visited =>
    let turns := 2 * (program.instructions.size * (text.size + 1)) + 2
    match program.explore text turns [⟨program.start, place, []⟩] visited with
    | (some way, _) => some (place, way)
    | (none, visited) => searchFrom program text left (place + 1) visited

end Program

/-- The text between two places. -/
def between (text : Array Char) (start stop : Nat) : String :=
  String.ofList (text.extract start stop).toList

/-- Finds the leftmost match of a program in a text. -/
def Program.find? (program : Program) (groups : Nat) (text : Array Char) : Option Capture := do
  let (start, way) ← program.searchFrom text (text.size + 1) 0 ∅
  let part? (number : Nat) : Option String := do
    let first ← way.notes.lookup (2 * number)
    let last ← way.notes.lookup (2 * number + 1)
    return between text first last
  return ⟨start, (List.range groups).map fun index => part? (index + 1)⟩

end Workings
