import Workings.Pattern

/-!
# Programs for patterns

A pattern is searched for by a program whose instructions take a character, test a place, note a
place, or go on in one of two ways, the first of which is preferred.
-/

namespace Workings

/-- An instruction. Numbers of instructions are their places in the program. -/
inductive Instruction where
  | take (set : CharSet) (next : Nat)
  | test (anchor : Anchor) (next : Nat)
  | note (slot next : Nat)
  | fork (preferred other : Nat)
  | accept
  deriving Repr, Inhabited

/-- A program with the number of the instruction it begins with. -/
structure Program where
  instructions : Array Instruction
  start : Nat
  deriving Repr, Inhabited

namespace Program

/-- Programs are written from their end, so that what comes next is known: every writer is given the
number of the next instruction and answers the number its own part begins with. -/
abbrev Writer := Nat → StateM (Array Instruction) Nat

/-- Writes one instruction. -/
def emit (instruction : Instruction) : StateM (Array Instruction) Nat := fun program =>
  (program.size, program.push instruction)

/-- Writes a fork between going on and leaving. -/
def fork (greedy : Bool) (on out : Nat) : Instruction :=
  if greedy then .fork on out else .fork out on

/-- Writes a part that comes once or more often: after it stands a fork that goes back to it. -/
def writeLoop (greedy : Bool) (part : Writer) (next : Nat) :
    StateM (Array Instruction) (Nat × Nat) := do
  let place ← emit .accept
  let begin ← part place
  modify fun program => program.setIfInBounds place (fork greedy begin next)
  return (begin, place)

/-- Writes a part so many times in a row, the last time first. -/
def writeTimes (part : Writer) : (count : Nat) → Writer
  | 0, next => return next
  | count + 1, next => do writeTimes part count (← part next)

/-- Writes a part that comes at most so many times. Each time may be the last one before `out`. -/
def writeOptional (greedy : Bool) (part : Writer) (out : Nat) : (count : Nat) → Writer
  | 0, next => return next
  | count + 1, next => do
    let begin ← part next
    writeOptional greedy part out count (← emit (fork greedy begin out))

/-- Writes a part that comes any number of times. A part that may be empty is entered before it is
known whether it goes on, so that an empty turn counts once. -/
def writeAny (greedy nullable : Bool) (part : Writer) (next : Nat) :
    StateM (Array Instruction) Nat := do
  let (begin, place) ← writeLoop greedy part next
  if nullable then emit (fork greedy begin next) else return place

/-- Writes the program of a pattern in front of the next instruction. -/
def write : Pattern → Writer
  | .empty, next => return next
  | .oneOf set, next => emit (.take set next)
  | .anchor anchor, next => emit (.test anchor next)
  | .sequence first second, next => do write first (← write second next)
  | .choice first second, next => do
    let preferred ← write first next
    let other ← write second next
    emit (.fork preferred other)
  | .group index inner, next => do
    let begin ← write inner (← emit (.note (2 * index + 1) next))
    emit (.note (2 * index) begin)
  | .repetition inner least most greedy, next =>
    match most with
    | some most => do
      let rest ← writeOptional greedy (write inner) next (most - least) next
      writeTimes (write inner) least rest
    | none => do
      if least = 0 then writeAny greedy inner.nullable (write inner) next
      else
        let (begin, _) ← writeLoop greedy (write inner) next
        writeTimes (write inner) (least - 1) begin

/-- The program of a pattern. -/
def of (pattern : Pattern) : Program :=
  let (start, instructions) := (do write pattern (← emit .accept)).run #[]
  ⟨instructions, start⟩

end Program

end Workings
