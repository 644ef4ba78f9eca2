import Workings.Span
import Workings.Text.Quoted

/-!
# Cutting a region out of a text

The region has to lie within the text, to end where it begins or later, and to begin and end between
characters.
-/

namespace Workings

/-- Why a region cannot be cut out of a text. -/
inductive Miscut where
  /-- A position lies behind the end of the text. -/
  | beyond (position : Nat)
  | reversed (region : Span)
  /-- A position lies inside the character that begins at `start`. -/
  | inside (position : Nat) (char : Char) (start : Nat)
  deriving Repr, DecidableEq

/-- The characters of a text up to so many bytes, and those behind them. The text begins at
`start`. -/
def splitBytes : (bytes start : Nat) → List Char → Except Miscut (List Char × List Char)
  | 0, _, chars => .ok ([], chars)
  | bytes + 1, start, [] => .error (.beyond (start + bytes + 1))
  | bytes + 1, start, char :: rest =>
    if char.utf8Size ≤ bytes + 1 then do
      let (before, behind) ← splitBytes (bytes + 1 - char.utf8Size) (start + char.utf8Size) rest
      return (char :: before, behind)
    else .error (.inside (start + bytes + 1) char start)

/-- The characters of a text in a region. -/
def Span.slice (region : Span) (chars : List Char) : Except Miscut (List Char) := do
  let length := byteLength chars
  if length < region.start then .error (.beyond region.start)
  else if length < region.stop then .error (.beyond region.stop)
  else if region.stop < region.start then .error (.reversed region)
  else
    let (_, behind) ← splitBytes region.start 0 chars
    let (within, _) ← splitBytes (region.stop - region.start) region.start behind
    return within

/-- The first characters of a text of at most so many bytes. -/
def takeBytes : (bytes : Nat) → List Char → List Char
  | _, [] => []
  | bytes, char :: rest =>
    if char.utf8Size ≤ bytes then char :: takeBytes (bytes - char.utf8Size) rest else []

/-- A longer text is not shown as a whole. -/
def maxShown : Nat := 256

/-- A text as it is shown in a message. -/
def shown (chars : List Char) : String :=
  let front := takeBytes maxShown chars
  "`" ++ String.ofList front ++ "`" ++ (if front.length < chars.length then "[...]" else "")

/-- What is said of a region that cannot be cut out of a text. -/
def Miscut.message (miscut : Miscut) (chars : List Char) : String :=
  match miscut with
  | .beyond position =>
    "byte index " ++ toString position ++ " is out of bounds of " ++ shown chars
  | .reversed region =>
    "begin <= end (" ++ toString region.start ++ " <= " ++ toString region.stop
      ++ ") when slicing " ++ shown chars
  | .inside position char start =>
    "byte index " ++ toString position ++ " is not a char boundary; it is inside '"
      ++ String.ofList (Text.escapeChar char) ++ "' (bytes " ++ toString start ++ ".."
      ++ toString (start + char.utf8Size) ++ ") of " ++ shown chars

end Workings
