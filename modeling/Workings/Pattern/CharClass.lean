import Workings.Text.Alphabetic
import Workings.Text.Blank
import Workings.Text.CategorySet
import Workings.Text.DecimalDigit
import Workings.Text.Invisible

/-!
# Classes of characters

The sets of characters that patterns have short names for: digits, blanks and the characters of
words, over all scripts or among the plain characters alone.
-/

namespace Workings.CharSet

/-- The decimal digits of all scripts. -/
def digits : CharSet :=
  .ofRanges Text.decimalDigitRanges

/-- The characters of white space. -/
def blanks : CharSet :=
  .ofRanges Text.blankRanges

/-- The characters that words are made of: letters, marks and digits of all scripts, connectors such
as the underscore, and the two joiners. -/
def words : CharSet :=
  .unions [Text.established Text.alphabeticRanges, .ofCategories [.mn, .mc, .me, .nd, .pc],
    .ofRanges Text.joinControlRanges]

/-- The plain digits. -/
def plainDigits : CharSet :=
  .range '0' '9'

/-- The plain characters of white space. -/
def plainBlanks : CharSet :=
  .unions [.range '\t' '\r', .single ' ']

/-- The plain characters that words are made of. -/
def plainWords : CharSet :=
  .unions [plainDigits, .range 'A' 'Z', .single '_', .range 'a' 'z']

/-- Every character but the line feed and, where it too ends lines, the carriage return. -/
def withinLine (returns : Bool) : CharSet :=
  (CharSet.ofCodes (if returns then ['\n'.toNat, '\r'.toNat] else ['\n'.toNat])).complement

/-- The class of plain characters with the given name. -/
def plainClass? : (name : String) → Option CharSet
  | "alnum" => some (.unions [plainDigits, .range 'A' 'Z', .range 'a' 'z'])
  | "alpha" => some (.unions [.range 'A' 'Z', .range 'a' 'z'])
  | "ascii" => some (.range '\x00' '\x7f')
  | "blank" => some (.unions [.single '\t', .single ' '])
  | "cntrl" => some (.unions [.range '\x00' '\x1f', .single '\x7f'])
  | "digit" => some plainDigits
  | "graph" => some (.range '!' '~')
  | "lower" => some (.range 'a' 'z')
  | "print" => some (.range ' ' '~')
  | "punct" => some
    (.unions [.range '!' '/', .range ':' '@', .range '[' '\x60', .range '\x7b' '~'])
  | "space" => some plainBlanks
  | "upper" => some (.range 'A' 'Z')
  | "word" => some plainWords
  | "xdigit" => some (.unions [plainDigits, .range 'A' 'F', .range 'a' 'f'])
  | _ => none

end Workings.CharSet
