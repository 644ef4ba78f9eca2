import Workings.Pattern.Bracket
import Workings.Pattern.Count
import Workings.Pattern.Opening
import Workings.Pattern.Size

/-!
# Reading patterns

The written form of patterns: alternatives, groups with and without numbers, repetitions, classes of
characters with set operations, anchors, escapes and flags. A text that is no pattern is refused as
a whole, and so is one whose parts are nested too deep or whose automaton would be too large;
looking around and referring back to groups are not part of the language.
-/

namespace Workings.PatternReading

/-- Parts inside each other may be nested so deep. -/
def maxDepth : Nat := 250

/-- A part of a sequence; none is a place where flags were set, which cannot be repeated. -/
abbrev Item := Nested (Option Pattern)

/-- The sequence of parts, which are given in reverse order. -/
def Item.sequence (items : List Item) : Nested Pattern :=
  ⟨.sequenceOf (items.reverse.filterMap Nested.value), depthBeside (items.map Nested.depth)⟩

/-- The choice between alternatives, which are given in reverse order. -/
def Item.choice (alternatives : List (Nested Pattern)) : Nested Pattern :=
  ⟨.choiceOf (alternatives.reverse.map Nested.value),
    depthBeside (alternatives.map Nested.depth)⟩

/-- Reads one character, anchor, dot or escape. -/
def readPrimitive : Reading Pattern := do
  let flags ← flags
  match ← next with
  | '.' =>
    demand (!flags.plain)
    return .oneOf (if flags.dotAll then .all else .withinLine flags.returns)
  | '^' => return .anchor (if flags.lines then .lineStart flags.returns else .textStart)
  | '$' => return .anchor (if flags.lines then .lineEnd flags.returns else .textEnd)
  | '\\' =>
    match ← readEscape with
    | .char char => return .oneOf (← fold (.single char))
    | .class set => return .oneOf set
    | .anchor anchor => return .anchor anchor
  | char => return .oneOf (← fold (.single char))

/-- Puts a repetition on the last part read, unless this is nested as deep as possible already. -/
def repeatLast (items : List Item) (least : Nat) (most : Option Nat) : Reading (List Item) := do
  let greedy ← readGreed
  match items with
  | ⟨some part, depth⟩ :: before =>
    demand (depth < maxDepth)
    return ⟨some (part.repeated least most greedy), depth + 1⟩ :: before
  | _ => refuse

/-- Reads the inside of a group and its closing parenthesis, under flags of its own. -/
def readGroup (flags : Flags) (inside : Reading (Nested Pattern)) : Reading (Nested Pattern) := do
  let outer := (← get).flags
  modify fun cursor => { cursor with flags }
  let inner ← inside
  demand (← skip? ")")
  modify fun cursor => { cursor with flags := outer }
  return ⟨inner.value, inner.depth + 1⟩

/-- Reads alternatives up to the end of their group. `items` were read of the current one, and
`before` are those before it, both in reverse order. Groups inside may be nested `levels` deep. -/
def readAlternatives : (budget levels : Nat) → (before : List (Nested Pattern)) →
    (items : List Item) → Reading (Nested Pattern)
  | 0, _, _, _ => refuse
  | budget + 1, levels, before, items => do
    skipSpace
    match ← rest with
    | [] | ')' :: _ => return Item.choice (Item.sequence items :: before)
    | '|' :: behind =>
      goOn behind
      readAlternatives budget levels (Item.sequence items :: before) []
    | '?' :: behind =>
      goOn behind
      readAlternatives budget levels before (← repeatLast items 0 (some 1))
    | '*' :: behind =>
      goOn behind
      readAlternatives budget levels before (← repeatLast items 0 none)
    | '+' :: behind =>
      goOn behind
      readAlternatives budget levels before (← repeatLast items 1 none)
    | '\x7b' :: behind =>
      goOn behind
      let (least, most) ← readCounts
      readAlternatives budget levels before (← repeatLast items least most)
    | '[' :: _ =>
      let members ← readClass levels
      readAlternatives budget levels before (⟨some (.oneOf members.value), members.depth⟩ :: items)
    | '(' :: behind =>
      goOn behind
      match ← readOpening with
      | .flags flags =>
        modify fun cursor => { cursor with flags }
        readAlternatives budget levels before (.leaf none :: items)
      | .numbered index =>
        demand (0 < levels)
        let inner ← readGroup (← flags) (readAlternatives budget (levels - 1) [] [])
        readAlternatives budget levels before
          (⟨some (.group index inner.value), inner.depth⟩ :: items)
      | .plain flags =>
        demand (0 < levels)
        let inner ← readGroup flags (readAlternatives budget (levels - 1) [] [])
        readAlternatives budget levels before (⟨some inner.value, inner.depth⟩ :: items)
    | _ =>
      let part ← readPrimitive
      readAlternatives budget levels before (.leaf (some part) :: items)

end Workings.PatternReading

namespace Workings.Pattern

/-- Reads a pattern. Whether it ignores case is given, unless its own flags say otherwise. -/
def read? (ignoringCase : Bool) (source : String) : Option Pattern := do
  let chars := source.toList
  let maxDepth := PatternReading.maxDepth
  let (pattern, cursor) ←
    (PatternReading.readAlternatives (chars.length + 1) maxDepth [] []).run
      ⟨chars, .standard ignoringCase, 0, []⟩
  if cursor.rest.isEmpty ∧ pattern.depth ≤ maxDepth ∧ pattern.value.fits then some pattern.value
  else none

end Workings.Pattern
