import Workings.Text.CharSet

/-!
# Characters as bytes

A character is written in UTF-8 as one to four bytes: a leading byte that tells how many follow, and
bytes of six bits each. A range of characters is written as a few sequences of byte ranges, in each
of which the bytes are chosen independently of each other.
-/

namespace Workings.Text

/-- The bytes from the first to the last. -/
abbrev ByteSpan := Nat × Nat

/-- How many code points differ in the last groups of six bits alone. -/
def sixBits : (digits : Nat) → Nat
  | 0 => 1
  | digits + 1 => 64 * sixBits digits

/-- The sequences for the code points from `low` to `high`. They are written with so many groups of
six bits behind a leading byte, which is `base` more than its bits. Where the leading byte is chosen
from several, all bytes behind it are free. -/
def spansOf : (digits : Nat) → (base low high : Nat) → List (List ByteSpan)
  | 0, base, low, high => [[(base + low, base + high)]]
  | digits + 1, base, low, high =>
    let unit := sixBits (digits + 1)
    let first := low / unit
    let last := high / unit
    let behind (leading low high : Nat) : List (List ByteSpan) :=
      (spansOf digits 0x80 low high).map fun spans => (base + leading, base + leading) :: spans
    if first = last then behind first (low % unit) (high % unit)
    else
      let startsWhole := low % unit = 0
      let endsWhole := high % unit = unit - 1
      let start := if startsWhole then first else first + 1
      let stop := if endsWhole then last + 1 else last
      let before := if startsWhole then [] else behind first (low % unit) (unit - 1)
      let within := if start < stop then
          [(base + start, base + stop - 1) :: List.replicate (digits + 1) (0x80, 0xbf)]
        else []
      let after := if endsWhole then [] else behind last 0 (high % unit)
      before ++ within ++ after

/-- The blocks of code points that are written with equally many bytes: the first and the last one,
the number of bytes behind the leading one, and what is added to the bits of this. The code points
between the third block and the fourth stand for no characters. -/
def byteBlocks : List (Nat × Nat × Nat × Nat) :=
  [(0, 0x7f, 0, 0), (0x80, 0x7ff, 1, 0xc0), (0x800, 0xd7ff, 2, 0xe0), (0xe000, 0xffff, 2, 0xe0),
   (0x10000, 0x10ffff, 3, 0xf0)]

/-- The sequences of byte ranges for the members of a set. -/
def byteSpans (set : CharSet) : List (List ByteSpan) :=
  set.ranges.flatMap fun (low, high) =>
    byteBlocks.flatMap fun (first, last, digits, base) =>
      if max low first ≤ min high last then spansOf digits base (max low first) (min high last)
      else []

end Workings.Text
