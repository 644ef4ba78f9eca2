import Workings.Number.Reading
import Workings.Pattern.Cursor

/-!
# Counts of repetitions

How often a part comes is written between braces, as one number or as the least and the greatest
one.
-/

namespace Workings.PatternReading

/-- The greatest count of a repetition. -/
def maxCount : Nat := 0xffffffff

/-- Reads digits, leaving out blanks and comments behind them. -/
def readDigits : (budget : Nat) → Reading (List Char)
  | 0 => return []
  | budget + 1 => do
    match ← rest with
    | [] => return []
    | char :: behind =>
      if char.isDigit then
        goOnSpaced behind
        return char :: (← readDigits budget)
      else return []

/-- Skips blanks that have no meaning even where blanks have one. -/
def skipBlanks : Reading Unit := do
  goOn (Text.trimStart (← rest))

/-- Reads a count, blanks around it aside. -/
def readCount : Reading Nat := do
  skipBlanks
  let digits ← readDigits (← rest).length
  skipBlanks
  let count := Number.valueOfDigits digits
  demand (!digits.isEmpty && count ≤ maxCount)
  return count

/-- Reads the counts of a repetition, whose opening brace was read. Without a greatest count there
is no limit. -/
def readCounts : Reading (Nat × Option Nat) := do
  skipSpace
  let least ← readCount
  let most ← if ← skip? "," then do
      skipSpace
      match ← rest with
      | '\x7d' :: _ => pure none
      | _ => do pure (some (← readCount))
    else pure (some least)
  demand (← skip? "\x7d")
  skipSpace
  demand ((most.map fun most => decide (least ≤ most)).getD true)
  return (least, most)

/-- Whether a repetition is greedy, after a question mark or without one. -/
def readGreed : Reading Bool := do
  let lazy ← skip? "?"
  return lazy == (← flags).swapGreed

end Workings.PatternReading
