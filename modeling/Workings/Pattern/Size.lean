import Std.Data.HashSet
import Workings.Pattern
import Workings.Text.ByteSpan

/-!
# Sizes of automata

A pattern is refused if an automaton that reads texts byte by byte would become too large for it.
The size is that of the states, their edges and their branches, for an automaton that reads forward
and for one that reads backward. It is an estimate: every alternative counts for itself, even where
several begin or end alike and could share states.
-/

namespace Workings

open Text

namespace CharSet

/-- The ways on from a state that still has to read one of some sequences: for every first range of
bytes, what has to be read behind it. -/
def waysOn (sequences : List (List ByteSpan)) : List (List (List ByteSpan)) :=
  (sequences.splitBy fun left right => left.head? == right.head?).map fun group =>
    group.map (List.drop 1)

/-- The states that read one of some sequences of at most so many bytes. States are told by what
they still have to read, and each stands here as often as it is reached. -/
def states : (bytes : Nat) → (sequences : List (List ByteSpan)) → List (List (List ByteSpan))
  | 0, _ => []
  | bytes + 1, sequences =>
    let further := (waysOn sequences).filter fun rest => rest.any fun spans => !spans.isEmpty
    sequences :: further.flatMap (states bytes)

/-- The size of a state without edges. -/
def stateSize : Nat := 32

/-- The size of an edge that is marked with a range of bytes. -/
def edgeSize : Nat := 8

/-- The size of an edge that reads nothing. -/
def branchSize : Nat := 4

/-- The number of bytes that a code point is written with. -/
def byteCount (code : Nat) : Nat :=
  if code < 0x80 then 1 else if code < 0x800 then 2 else if code < 0x10000 then 3 else 4

/-- The number of edges that leave some states. -/
def edgeCount (states : List (List (List ByteSpan))) : Nat :=
  states.foldl (fun count state => count + (waysOn state).length) 0

/-- The size of an automaton for one character of a set that has several or none. Forward, states
with the same future are one; backward, there is one state for every beginning of a sequence. -/
def automatonSize (backward : Bool) (set : CharSet) : Nat :=
  if set.isPlain then 2 * stateSize + edgeSize * set.ranges.length
  else
    let sequences := byteSpans set
    let all := states 4 sequences
    if backward then
      2 * stateSize + branchSize * sequences.length + stateSize * edgeCount all
    else
      let distinct := (Std.HashSet.ofList all).toList
      stateSize * (distinct.length + 1) + edgeSize * edgeCount distinct

/-- The size of an automaton for one character of a set. A single character has a state for each of
its bytes. -/
def size (backward : Bool) (set : CharSet) : Nat :=
  match set.ranges with
  | [(first, last)] =>
    if first = last then byteCount first * stateSize else set.automatonSize backward
  | _ => set.automatonSize backward

end CharSet

namespace Pattern

open CharSet (stateSize branchSize)

/-- Whether the pattern is a choice. -/
def isChoice : Pattern → Bool
  | .choice .. => true
  | _ => false

/-- The size of an automaton for a part that comes so many times, where one time has the size
`one`. -/
def repeatedSize (nullable : Bool) (one least : Nat) : (most : Option Nat) → Nat
  | some most =>
    let fork := stateSize + 2 * branchSize
    if least = 0 ∧ most = 1 then one + fork + stateSize
    else if least = most then least * one
    else
      (if least = 0 then stateSize else least * one) + (most - least) * (one + fork) + stateSize
  | none =>
    let loop := stateSize + 2 * branchSize
    if 0 < least then least * one + loop
    else if nullable then one + 2 * loop + stateSize
    else one + loop

/-- The size of an automaton for a pattern. Backward, groups are not noted. -/
def size (backward : Bool) : Pattern → Nat
  | .empty | .anchor _ => stateSize
  | .oneOf set => set.size backward
  | .sequence first second => first.size backward + second.size backward
  | .choice first second =>
    let branch (part : Pattern) (size : Nat) : Nat :=
      if part.isChoice then size - 2 * stateSize else size + branchSize
    2 * stateSize + branch first (first.size backward) + branch second (second.size backward)
  | .group _ inner => inner.size backward + (if backward then 0 else 2 * stateSize)
  | .repetition inner least most _ =>
    repeatedSize inner.nullable (inner.size backward) least most

/-- Whether a match can begin at one end of the text alone: its end if it is read backward. -/
def isBound (backward : Bool) : Pattern → Bool
  | .empty | .oneOf _ => false
  | .anchor place => place = if backward then .textEnd else .textStart
  | .sequence first second =>
    if backward then second.isBound backward || second.isVoid && first.isBound backward
    else first.isBound backward || first.isVoid && second.isBound backward
  | .choice first second => first.isBound backward && second.isBound backward
  | .group _ inner => inner.isBound backward
  | .repetition inner least _ _ => 0 < least && inner.isBound backward

/-- The size of an automaton that searches for a pattern: one that notes where the match stands,
accepts it and, unless it is bound to an end of the text, first skips any bytes. -/
def searchSize (backward : Bool) (pattern : Pattern) : Nat :=
  let skip := if pattern.isBound backward then stateSize
    else 3 * stateSize + CharSet.edgeSize + 2 * branchSize
  let whole := .group 0 pattern
  skip + size backward whole + stateSize

/-- The greatest size of an automaton. -/
def maxSize : Nat := 10 * 1024 * 1024

/-- Whether the automata for a pattern are small enough. -/
def fits (pattern : Pattern) : Bool :=
  pattern.searchSize false ≤ maxSize && pattern.searchSize true ≤ maxSize

end Pattern

end Workings
