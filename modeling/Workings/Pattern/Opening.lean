import Workings.Pattern.Cursor
import Workings.Text.Alphabetic
import Workings.Text.Category

/-!
# Openings of groups

A group may have a number, a name besides, or flags of its own. Flags may also be set for the rest
of the group around them.
-/

namespace Workings.PatternReading

/-- What begins at an opening parenthesis. -/
inductive Opening where
  /-- A group with a number. -/
  | numbered (index : Nat)
  /-- A group without a number, with flags of its own. -/
  | plain (flags : Flags)
  /-- Flags for the rest of the group around them. -/
  | flags (flags : Flags)

/-- Whether a character is a digit or another number. -/
def isNumeric (char : Char) : Bool :=
  match Text.category char with
  | .nd | .nl | .no => true
  | _ => false

/-- Whether a character may stand in the name of a group. -/
def isGroupChar (first : Bool) (char : Char) : Bool :=
  char = '_' || Text.isAlphabetic char
    || (!first && (char = '.' || char = '[' || char = ']' || isNumeric char))

/-- Opens a numbered group. -/
def openNumbered : Reading Opening := do
  let cursor ← get
  let index := cursor.groups + 1
  set { cursor with groups := index }
  return .numbered index

/-- Reads the name of a group. No name is given twice. -/
def readGroupName : Reading Unit := do
  let chars ← rest
  let name := chars.takeWhile (· ≠ '>')
  goOn (chars.dropWhile (· ≠ '>'))
  demand (← skip? ">")
  match name with
  | [] => refuse
  | first :: others => demand (isGroupChar true first && others.all (isGroupChar false))
  let cursor ← get
  demand (!cursor.names.contains name)
  set { cursor with names := name :: cursor.names }

/-- Sets or clears the flag of a letter. -/
def setFlag (flags : Flags) (letter : Char) (value : Bool) : Option Flags :=
  match letter with
  | 'i' => some { flags with ignoreCase := value }
  | 'm' => some { flags with lines := value }
  | 's' => some { flags with dotAll := value }
  | 'U' => some { flags with swapGreed := value }
  | 'R' => some { flags with returns := value }
  | 'u' => some { flags with plain := !value }
  | 'x' => some { flags with spaced := value }
  | _ => none

/-- Reads flags up to the colon or parenthesis behind them. A hyphen clears those that follow it,
and no sign comes twice. -/
def readFlags : (budget : Nat) → (seen : List Char) → Flags → Reading (Flags × Char × List Char)
  | 0, _, _ => refuse
  | budget + 1, seen, flags => do
    let char ← next
    if char = ':' ∨ char = ')' then
      demand (seen.head? ≠ some '-')
      return (flags, char, seen)
    else
      demand (!seen.contains char)
      if char = '-' then readFlags budget (char :: seen) flags
      else readFlags budget (char :: seen) (← demandSome (setFlag flags char (!seen.contains '-')))

/-- Reads what stands behind an opening parenthesis. Conditions on the text around the group have no
place in the language. -/
def readOpening : Reading Opening := do
  skipSpace
  match ← rest with
  | '?' :: '=' :: _ | '?' :: '!' :: _ | '?' :: '<' :: '=' :: _ | '?' :: '<' :: '!' :: _ => refuse
  | _ =>
    if (← skip? "?P<") || (← skip? "?<") then
      let opening ← openNumbered
      readGroupName
      return opening
    else if ← skip? "?" then
      let (flags, stop, seen) ← readFlags ((← rest).length + 1) [] (← flags)
      if stop = ':' then return .plain flags
      else
        demand (!seen.isEmpty)
        return .flags flags
    else openNumbered

end Workings.PatternReading
