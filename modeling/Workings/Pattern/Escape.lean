import Workings.Pattern.Cursor
import Workings.Text.PropertyName

/-!
# Escapes

A backslash gives the characters behind it another meaning: they stand for a character that is hard
to write, for a class of characters, or for a condition on a place.
-/

namespace Workings.PatternReading

/-- What an escape stands for. -/
inductive Escaped where
  | char (char : Char)
  | class (set : CharSet)
  | anchor (anchor : Anchor)

/-- The value of a digit in hexadecimal. -/
def hexDigit? (char : Char) : Option Nat :=
  if Char.isDigit char then some (char.toNat - '0'.toNat)
  else if 'a' ≤ char ∧ char ≤ 'f' then some (char.toNat - 'a'.toNat + 10)
  else if 'A' ≤ char ∧ char ≤ 'F' then some (char.toNat - 'A'.toNat + 10)
  else none

/-- The character of a code written in hexadecimal. -/
def charOfHex? (digits : List Char) : Option Char := do
  if digits.isEmpty then none
  else
    let values ← digits.mapM hexDigit?
    let code := values.foldl (fun value digit => 16 * value + digit) 0
    if code.isValidChar then some (Char.ofNat code) else none

/-- Reads so many characters, leaving out blanks and comments behind them. -/
def readChars : (count : Nat) → Reading (List Char)
  | 0 => return []
  | count + 1 => do
    let char ← next
    skipSpace
    return char :: (← readChars count)

/-- Reads a code in hexadecimal: between braces, or of the given length. A code of two digits stands
for one byte, so where only plain characters make classes it has to be plain. -/
def readHex (length : Nat) : Reading Char := do
  skipSpace
  match ← rest with
  | '\x7b' :: _ =>
    let digits ← readBraces
    skipSpace
    demandSome (charOfHex? digits)
  | _ =>
    let char ← demandSome (charOfHex? (← readChars length))
    demand (2 < length || char.toNat < 0x80 || !(← flags).plain)
    return char

/-- Whether a character may be escaped to stand for itself: every plain one but letters, digits and
angle brackets. -/
def isEscapable (char : Char) : Bool :=
  char.toNat < 0x80 && !char.isAlphanum && char ≠ '<' && char ≠ '>'

/-- The parts of a text before and behind a sign that stands in it. -/
def cut? (sign : List Char) : List Char → Option (List Char × List Char)
  | [] => none
  | char :: rest =>
    if sign.isPrefixOf (char :: rest) then some ([], (char :: rest).drop sign.length)
    else (cut? sign rest).map fun (before, behind) => (char :: before, behind)

/-- The characters with a property, given by a name alone or by a name and a value with one of three
signs between them. -/
def propertyMembers? (query : List Char) : Option CharSet :=
  match [['!', '='], [':'], ['=']].findSome? (cut? · query) with
  | some (name, value) => Text.valuedMembers? name value
  | none => Text.namedMembers? query

/-- Reads the class behind the escape of a property, negated or not. Its name is one letter or
stands between braces. -/
def readProperty (negated : Bool) : Reading CharSet := do
  skipSpace
  let query ← match ← rest with
    | '\x7b' :: _ => readBraces
    | _ => do
      let letter ← next
      demand (letter ≠ '\\')
      skipSpace
      pure [letter]
  demand (!(← flags).plain)
  invertIf negated (← fold (← demandSome (propertyMembers? query)))

/-- The class of an escape that has a plain variant, negated or not. -/
def commonClass (members plainMembers : CharSet) (negated : Bool) : Reading CharSet := do
  invertIf negated (if (← flags).plain then plainMembers else members)

/-- Reads the letters and hyphens up to a closing brace, leaving out blanks and comments. -/
def readPlaceName : (budget : Nat) → Reading (List Char)
  | 0 => refuse
  | budget + 1 => do
    match ← rest with
    | [] => refuse
    | '\x7d' :: behind => goOn behind; return []
    | char :: behind =>
      demand (char.isAlpha || char = '-')
      goOnSpaced behind
      return char :: (← readPlaceName budget)

/-- Reads the place that a word boundary means: the one named between braces, if they begin with a
letter or a hyphen. Otherwise the braces are left to be read as counts. -/
def readPlace : Reading WordPlace := do
  let chars ← rest
  match chars with
  | '\x7b' :: behind =>
    goOnSpaced behind
    match ← rest with
    | [] => refuse
    | first :: _ =>
      if first.isAlpha ∨ first = '-' then
        match String.ofList (← readPlaceName chars.length) with
        | "start" => return .start
        | "end" => return .stop
        | "start-half" => return .startHalf
        | "end-half" => return .stopHalf
        | _ => refuse
      else
        goOn chars
        return .boundary
  | _ => return .boundary

/-- The anchor for a place in regard to words. -/
def wordAnchor (place : WordPlace) : Reading Escaped := do
  return .anchor (.word place (← flags).plain)

/-- Reads what follows a backslash. -/
def readEscape : Reading Escaped := do
  let char ← next
  match char with
  | 'd' => return .class (← commonClass .digits .plainDigits false)
  | 'D' => return .class (← commonClass .digits .plainDigits true)
  | 's' => return .class (← commonClass .blanks .plainBlanks false)
  | 'S' => return .class (← commonClass .blanks .plainBlanks true)
  | 'w' => return .class (← commonClass .words .plainWords false)
  | 'W' => return .class (← commonClass .words .plainWords true)
  | 'p' => return .class (← readProperty false)
  | 'P' => return .class (← readProperty true)
  | 'x' => return .char (← readHex 2)
  | 'u' => return .char (← readHex 4)
  | 'U' => return .char (← readHex 8)
  | 'a' => return .char '\x07'
  | 'f' => return .char '\x0c'
  | 't' => return .char '\t'
  | 'n' => return .char '\n'
  | 'r' => return .char '\r'
  | 'v' => return .char '\x0b'
  | 'A' => return .anchor .textStart
  | 'z' => return .anchor .textEnd
  | 'b' => wordAnchor (← readPlace)
  | 'B' => wordAnchor .noBoundary
  | '<' => wordAnchor .start
  | '>' => wordAnchor .stop
  | _ => if isEscapable char then return .char char else refuse

end Workings.PatternReading
