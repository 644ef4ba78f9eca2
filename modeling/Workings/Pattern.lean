import Workings.Pattern.CharClass

/-!
# Patterns

A pattern describes texts: which characters follow each other, what is repeated, and which parts are
captured.
-/

namespace Workings

/-- Where a place stands to words. The halves look at one side only. -/
inductive WordPlace where
  | boundary
  | noBoundary
  | start
  | stop
  | startHalf
  | stopHalf
  deriving Repr, DecidableEq

/-- A condition on a place between two characters. -/
inductive Anchor where
  | textStart
  | textEnd
  /-- The start of a line. With `returns`, a carriage return ends lines too, and one that precedes a
  line feed ends them together with it. -/
  | lineStart (returns : Bool)
  | lineEnd (returns : Bool)
  /-- A place in regard to words, which may be made of plain characters alone. -/
  | word (place : WordPlace) (plain : Bool)
  deriving Repr, DecidableEq

/-- A pattern. -/
inductive Pattern where
  | empty
  | oneOf (set : CharSet)
  | anchor (anchor : Anchor)
  | sequence (first second : Pattern)
  /-- Either pattern; the first is preferred. -/
  | choice (first second : Pattern)
  /-- A part whose text is captured under a number. -/
  | group (index : Nat) (inner : Pattern)
  /-- A part that comes at least and at most so many times. A greedy one is preferred to come
  often. -/
  | repetition (inner : Pattern) (least : Nat) (most : Option Nat) (greedy : Bool)
  deriving Repr, Inhabited

namespace Pattern

/-- Whether the pattern can describe the empty text. -/
def nullable : Pattern → Bool
  | .empty | .anchor _ => true
  | .oneOf _ => false
  | .sequence first second => first.nullable && second.nullable
  | .choice first second => first.nullable || second.nullable
  | .group _ inner => inner.nullable
  | .repetition inner least _ _ => least == 0 || inner.nullable

/-- Whether the pattern can describe no other text than the empty one. -/
def isVoid : Pattern → Bool
  | .empty | .anchor _ => true
  | .oneOf _ => false
  | .sequence first second | .choice first second => first.isVoid && second.isVoid
  | .group _ inner | .repetition inner _ _ _ => inner.isVoid

/-- The greatest number of a group in the pattern. -/
def groupCount : Pattern → Nat
  | .empty | .oneOf _ | .anchor _ => 0
  | .sequence first second | .choice first second => max first.groupCount second.groupCount
  | .group index inner => max index inner.groupCount
  | .repetition inner _ _ _ => inner.groupCount

/-- A part that comes so many times. What is always empty need not come more than once, and a part
that never comes is empty. -/
def repeated (inner : Pattern) (least : Nat) (most : Option Nat) (greedy : Bool) : Pattern :=
  let least := if inner.isVoid then min least 1 else least
  let most := if inner.isVoid then some (min (most.getD 1) 1) else most
  if most = some 0 then .empty
  else if least = 1 ∧ most = some 1 then inner
  else .repetition inner least most greedy

/-- Parts that follow each other. Empty ones are left out. -/
def sequenceOf (parts : List Pattern) : Pattern :=
  let isEmpty : Pattern → Bool
    | .empty => true
    | _ => false
  match (parts.filter fun part => !isEmpty part).reverse with
  | [] => .empty
  | last :: before => before.foldl (fun behind part => .sequence part behind) last

/-- Either of the patterns, earlier ones being preferred. Single characters make one set. -/
def choiceOf (alternatives : List Pattern) : Pattern :=
  let set? : Pattern → Option CharSet
    | .oneOf set => some set
    | _ => none
  match alternatives.mapM set? with
  | some sets => .oneOf (.unions sets)
  | none =>
    match alternatives.reverse with
    | [] => .oneOf .empty
    | last :: before => before.foldl (fun behind part => .choice part behind) last

end Pattern

/-- Whether a word character stands at a place of the text. -/
def isWordAt (text : Array Char) (plain : Bool) (place : Nat) : Bool :=
  match text[place]? with
  | some char => (if plain then CharSet.plainWords else CharSet.words).has char
  | none => false

namespace WordPlace

/-- What a place asks of the characters before and behind it. -/
def asks (place : WordPlace) (wordBefore wordBehind : Bool) : Bool :=
  match place with
  | .boundary => wordBefore != wordBehind
  | .noBoundary => wordBefore == wordBehind
  | .start => !wordBefore && wordBehind
  | .stop => wordBefore && !wordBehind
  | .startHalf => !wordBefore
  | .stopHalf => !wordBehind

end WordPlace

/-- Whether an anchor holds at the place before the character at an index of a text. -/
def Anchor.holds (anchor : Anchor) (text : Array Char) (index : Nat) : Bool :=
  let before? := if index = 0 then none else text[index - 1]?
  let behind? := text[index]?
  match anchor with
  | .textStart => index = 0
  | .textEnd => index = text.size
  | .lineStart false => index = 0 || before? = some '\n'
  | .lineStart true =>
    index = 0 || before? = some '\n' || before? = some '\r' && behind? ≠ some '\n'
  | .lineEnd false => index = text.size || behind? = some '\n'
  | .lineEnd true =>
    index = text.size || behind? = some '\r' || behind? = some '\n' && before? ≠ some '\r'
  | .word place plain =>
    place.asks (0 < index && isWordAt text plain (index - 1)) (isWordAt text plain index)

end Workings
