import Workings.Text.RangeTable

/-!
# White space

The characters with the property White_Space, of which control characters, the no-break space and
the typographic spaces are members.
-/

namespace Workings.Text

/-- The characters with the property White_Space. -/
def blankRanges : RangeTable :=
  [(0x9, 0xd), (0x20, 0x20), (0x85, 0x85), (0xa0, 0xa0), (0x1680, 0x1680), (0x2000, 0x200a),
   (0x2028, 0x2029), (0x202f, 0x202f), (0x205f, 0x205f), (0x3000, 0x3000)]

/-- A character of white space. -/
def isBlank (char : Char) : Bool :=
  blankRanges.has char

/-- The text without any white space. -/
def compact (chars : List Char) : List Char :=
  chars.filter fun char => !isBlank char

/-- The text without the white space before it. -/
def trimStart (chars : List Char) : List Char :=
  chars.dropWhile isBlank

/-- The text without the white space after it. -/
def trimEnd (chars : List Char) : List Char :=
  (chars.reverse.dropWhile isBlank).reverse

/-- The text without the white space around it. -/
def trim (chars : List Char) : List Char :=
  trimEnd (trimStart chars)

end Workings.Text
