import Workings.Pattern
import Workings.Text.CaseFolding

/-!
# Reading the text of a pattern

A pattern is read from its beginning to its end. Flags tell how what follows is to be understood,
and a reader may refuse the text as a whole.
-/

namespace Workings.PatternReading

/-- How the pattern is read from here to the end of the group. -/
structure Flags where
  ignoreCase : Bool
  /-- The anchors of the text also hold at lines. -/
  lines : Bool
  /-- The dot also accepts the end of a line. -/
  dotAll : Bool
  /-- Repetitions are lazy, and those with a question mark greedy. -/
  swapGreed : Bool
  /-- A carriage return ends lines too. -/
  returns : Bool
  /-- Only plain characters make classes and words, and only their case is ignored. -/
  plain : Bool
  /-- Blanks and comments are skipped. -/
  spaced : Bool
  deriving Repr

/-- The flags that hold at the beginning of a pattern. -/
def Flags.standard (ignoreCase : Bool) : Flags :=
  ⟨ignoreCase, false, false, false, false, false, false⟩

/-- The state of a reader of patterns. -/
structure Cursor where
  rest : List Char
  flags : Flags
  /-- How many numbered groups were opened. -/
  groups : Nat
  names : List (List Char)

/-- A reader of patterns, which may refuse. -/
abbrev Reading := StateT Cursor Option

/-- Refuses the text. -/
def refuse {α : Type} : Reading α := fun _ => none

/-- Demands a condition. -/
def demand (condition : Bool) : Reading Unit :=
  if condition then pure () else refuse

/-- Goes on with a value, if there is one. -/
def demandSome {α : Type} : Option α → Reading α
  | some value => pure value
  | none => refuse

/-- The characters that are still to be read. -/
def rest : Reading (List Char) := return (← get).rest

/-- Goes on behind what was read. -/
def goOn (rest : List Char) : Reading Unit :=
  modify fun cursor => { cursor with rest }

/-- The flags that hold here. -/
def flags : Reading Flags := return (← get).flags

/-- The text behind blanks and comments. `inComment` tells whether a comment was begun. -/
def dropSpace (inComment : Bool) : List Char → List Char
  | [] => []
  | char :: rest =>
    if inComment then dropSpace (char ≠ '\n') rest
    else if Text.isBlank char then dropSpace false rest
    else if char = '#' then dropSpace true rest
    else char :: rest

/-- Skips blanks and comments where they have no meaning. -/
def skipSpace : Reading Unit := do
  if (← flags).spaced then goOn (dropSpace false (← rest))

/-- Goes on behind what was read and behind the blanks and comments there. -/
def goOnSpaced (rest : List Char) : Reading Unit := do
  goOn rest
  skipSpace

/-- The next character; there has to be one. -/
def next : Reading Char := do
  match ← rest with
  | [] => refuse
  | char :: behind => goOn behind; return char

/-- Demands that something is left to be read. -/
def demandMore : Reading Unit := do
  demand (!(← rest).isEmpty)

/-- Skips a text if it stands here, and tells whether it did. -/
def skip? (text : String) : Reading Bool := do
  let chars ← rest
  if text.toList.isPrefixOf chars then goOn (chars.drop text.length); return true
  else return false

/-- Reads the text up to a closing brace, leaving out blanks and comments. -/
def readBraced : (budget : Nat) → Reading (List Char)
  | 0 => refuse
  | budget + 1 => do
    match ← rest with
    | [] => refuse
    | '\x7d' :: behind => goOn behind; return []
    | char :: behind =>
      goOnSpaced behind
      return char :: (← readBraced budget)

/-- Reads what stands between braces. The opening brace is the next character. -/
def readBraces : Reading (List Char) := do
  let chars ← rest
  goOnSpaced (chars.drop 1)
  readBraced chars.length

/-- A set with its variants in case where these are ignored. -/
def fold (set : CharSet) : Reading CharSet := do
  let flags ← flags
  return if !flags.ignoreCase then set else if flags.plain then set.foldedPlain else set.folded

/-- A set, or all characters that it lacks. Where only plain characters make classes, the result has
to be one of them. -/
def invertIf (negated : Bool) (set : CharSet) : Reading CharSet := do
  let set := if negated then set.complement else set
  demand (!(← flags).plain || set.isPlain)
  return set

/-- Something that was read, with how deep its parts are nested. -/
structure Nested (α : Type) where
  value : α
  depth : Nat

/-- Something without parts. -/
def Nested.leaf {α : Type} (value : α) : Nested α :=
  ⟨value, 0⟩

/-- How deep parts side by side are nested. Several parts are one level deeper than the deepest of
them. -/
def depthBeside : (depths : List Nat) → Nat
  | [] => 0
  | [depth] => depth
  | depths => depths.foldl max 0 + 1

end Workings.PatternReading
