import Workings.Pattern.Escape

/-!
# Classes between brackets

A class between brackets lists characters, ranges and further classes, and may combine what it lists
by set operations. A circumflex at its beginning means all other characters.
-/

namespace Workings.PatternReading

/-- The operations on sets inside a class. -/
inductive SetOp where
  | intersection
  | difference
  | symmetricDifference

/-- What an operation on sets does. -/
def SetOp.apply : SetOp → CharSet → CharSet → CharSet
  | .intersection => CharSet.intersection
  | .difference => CharSet.difference
  | .symmetricDifference => CharSet.symmetricDifference

/-- A set that was read, with how deep its parts are nested. -/
abbrev Members := Nested CharSet

/-- The sets listed side by side, as one set. -/
def Members.beside (sets : List Members) : Members :=
  ⟨.unions (sets.map Nested.value), depthBeside (sets.map Nested.depth)⟩

/-- An operation that was begun, with the set on its left. -/
structure Pending where
  op : SetOp
  left : Members

/-- Applies a pending operation to the sets on both its sides. -/
def finish (pending : Option Pending) (right : Members) : Reading Members := do
  match pending with
  | none => return right
  | some ⟨op, left⟩ =>
    let set := op.apply (← fold left.value) (← fold right.value)
    return ⟨set, max left.depth right.depth + 1⟩

/-- Reads a class of plain characters such as `[:alpha:]`, if one stands here. -/
def readPlainClass? : Reading (Option CharSet) := do
  match ← rest with
  | '[' :: ':' :: behind =>
    let (negated, behind) := match behind with
      | '^' :: behind => (true, behind)
      | behind => (false, behind)
    match behind.dropWhile (· ≠ ':') with
    | ':' :: ']' :: after =>
      match CharSet.plainClass? (String.ofList (behind.takeWhile (· ≠ ':'))) with
      | none => return none
      | some set =>
        goOn after
        return some (← invertIf negated (← fold set))
    | _ => return none
  | _ => return none

/-- One place of a class: a character or an escape. -/
def readClassItem : Reading Escaped := do
  match ← next with
  | '\\' => readEscape
  | char => return .char char

/-- The first character that is no blank. A number sign before it, of which there may be one, is
passed over. -/
def firstBehind? (passed : Bool) : List Char → Option Char
  | [] => none
  | char :: rest =>
    if Text.isBlank char then firstBehind? passed rest
    else if !passed && char = '#' then firstBehind? true rest
    else some char

/-- The character that is looked at to tell what the next one means: the one behind it or, where
blanks have no meaning, the first one behind that is no blank. -/
def peekBehind : Reading (Option Char) := do
  let behind := (← rest).drop 1
  if (← flags).spaced then return (firstBehind? false behind).orElse fun _ => behind.head?
  else return behind.head?

/-- Reads one character, one range or one escape of a class. -/
def readClassRange : Reading CharSet := do
  let first ← readClassItem
  skipSpace
  demandMore
  let after ← peekBehind
  let chars ← rest
  let plain := (← flags).plain
  let isAllowed (char : Char) : Bool := char.toNat < 0x80 || !plain
  if chars.head? ≠ some '-' ∨ after = some ']' ∨ after = some '-' then
    match first with
    | .char char =>
      demand (isAllowed char)
      return .single char
    | .class set => return set
    | .anchor _ => refuse
  else
    goOnSpaced (chars.drop 1)
    match first, ← readClassItem with
    | .char first, .char last =>
      demand (first ≤ last && isAllowed first && isAllowed last)
      return .range first last
    | _, _ => refuse

/-- The hyphens at the beginning of a class stand for themselves, and so does a bracket that comes
first. -/
def readClassStart : (budget : Nat) → (sets : List Members) → Reading (List Members)
  | 0, _ => refuse
  | budget + 1, sets => do
    match ← rest with
    | [] => refuse
    | '-' :: behind =>
      goOnSpaced behind
      readClassStart budget (.leaf (.single '-') :: sets)
    | ']' :: behind =>
      if sets.isEmpty then
        goOnSpaced behind
        demandMore
        return [.leaf (.single ']')]
      else return sets
    | _ => return sets

/-- Opens a class, whose opening bracket is the next character: whether it is negated, and what
stands for itself at its beginning, in reverse order. -/
def openClass : Reading (Bool × List Members) := do
  let chars ← rest
  goOnSpaced (chars.drop 1)
  let negated ← skip? "^"
  if negated then skipSpace
  return (negated, ← readClassStart chars.length [])

/-- Reads a class up to its closing bracket. `sets` were read since the last set operation, in
reverse order. Classes inside it may be nested `levels` deep. -/
def readClassBody : (budget levels : Nat) → (negated : Bool) → (pending : Option Pending) →
    (sets : List Members) → Reading Members
  | 0, _, _, _, _ => refuse
  | budget + 1, levels, negated, pending, sets => do
    skipSpace
    let operation (op : SetOp) (behind : List Char) : Reading Members := do
      goOn behind
      let left ← finish pending (.beside sets.reverse)
      readClassBody budget levels negated (some ⟨op, left⟩) []
    match ← rest with
    | [] => refuse
    | ']' :: behind =>
      goOn behind
      let members ← finish pending (.beside sets.reverse)
      return ⟨← invertIf negated (← fold members.value), members.depth + 1⟩
    | '&' :: '&' :: behind => operation .intersection behind
    | '-' :: '-' :: behind => operation .difference behind
    | '~' :: '~' :: behind => operation .symmetricDifference behind
    | '[' :: _ =>
      match ← readPlainClass? with
      | some set => readClassBody budget levels negated pending (.leaf set :: sets)
      | none =>
        demand (0 < levels)
        let (inverse, begun) ← openClass
        let inner ← readClassBody budget (levels - 1) inverse none begun
        readClassBody budget levels negated pending (inner :: sets)
    | _ => readClassBody budget levels negated pending (.leaf (← readClassRange) :: sets)

/-- Reads a class, whose opening bracket is the next character. -/
def readClass (levels : Nat) : Reading Members := do
  let (negated, begun) ← openClass
  readClassBody ((← rest).length + 1) levels negated none begun

end Workings.PatternReading
