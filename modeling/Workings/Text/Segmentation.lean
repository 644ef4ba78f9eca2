import Workings.Text.Alphabetic
import Workings.Text.Blank
import Workings.Text.CaseChange
import Workings.Text.DecimalDigit
import Workings.Text.Emoji
import Workings.Text.GraphemeExtend
import Workings.Text.Ideograph
import Workings.Text.Invisible
import Workings.Text.Punctuation
import Workings.Text.ScriptExtensions

/-!
# Where characters, words and sentences end

Three properties tell where a text may be divided: between characters as they are read, between
words, and between sentences. Each has several values, which are told by the first set that a
character belongs to.
-/

namespace Workings.Text

/-- A property with several values. Each value is given by its names and by a set, from which the
members of all sets before it are left out. -/
abbrev Partition := List (List String × CharSet)

/-- The characters with the value of the given name. -/
def Partition.members? (table : Partition) (name : String) : Option CharSet := do
  let index ← table.findIdx? fun (names, _) => names.contains name
  let (_, set) ← table[index]?
  return set.difference (.unions ((table.take index).map Prod.snd))

/-- The marks that are drawn on the character before them, and the colours of skin. -/
def extending : CharSet :=
  (established graphemeExtendRanges).union (.ofRanges emojiModifierRanges)

/-- The signs around digits and letters that are drawn around what follows them. -/
def spanningMarks : CharSet :=
  .ofRanges spanningMarkRanges

/-- The decimal digits and the signs that are drawn around them. -/
def digitsAndSigns : CharSet :=
  (CharSet.ofRanges decimalDigitRanges).union (spanningMarks.difference (.single '\u070f'))

/-! ## Characters -/

/-- The letters that are drawn together with what follows them. -/
def shownBeforeRanges : RangeTable :=
  [(0xd4e, 0xd4e), (0x111c2, 0x111c3), (0x113d1, 0x113d1), (0x1193f, 0x1193f), (0x11941, 0x11941),
   (0x11a3a, 0x11a3a), (0x11a84, 0x11a89), (0x11d46, 0x11d46), (0x11f02, 0x11f02)]

/-- The spacing marks that are no part of the character before them. -/
def looseVowelRanges : RangeTable :=
  [(0x102b, 0x102c), (0x1038, 0x1038), (0x1062, 0x1064), (0x1067, 0x106d), (0x1083, 0x1083),
   (0x1087, 0x108c), (0x108f, 0x108f), (0x109a, 0x109c), (0x1a61, 0x1a61), (0x1a63, 0x1a64),
   (0xaa7b, 0xaa7b), (0xaa7d, 0xaa7d), (0x11720, 0x11721)]

/-- How characters are joined to what is read as one: the property Grapheme_Cluster_Break. -/
def graphemeBreaks : Partition :=
  [(["cr"], .single '\r'),
   (["lf"], .single '\n'),
   (["zwj"], .single '\u200d'),
   (["ex", "extend"], extending),
   (["pp", "prepend"], spanningMarks.union (.ofRanges shownBeforeRanges)),
   (["cn", "control"], .unions
     [.ofCategories [.zl, .zp, .cc],
      (CharSet.ofCategories [.cf]).difference (.single '\u200c'),
      (CharSet.ofCategories [.cn]).intersection (.ofRanges ignorableRanges)]),
   (["ri", "regionalindicator"], .ofRanges regionalIndicatorRanges),
   (["l"], .ofRanges [(0x1100, 0x115f), (0xa960, 0xa97c)]),
   (["v"], .ofRanges [(0x1160, 0x11a7), (0xd7b0, 0xd7c6), (0x16d63, 0x16d63), (0x16d67, 0x16d6a)]),
   (["t"], .ofRanges [(0x11a8, 0x11ff), (0xd7cb, 0xd7fb)]),
   (["lv"], .ofCodes ((List.range 399).map fun index => 0xac00 + 28 * index)),
   (["lvt"], .ofRanges [(0xac00, 0xd7a3)]),
   (["sm", "spacingmark"],
     ((CharSet.ofCategories [.mc]).union (.ofCodes [0xe33, 0xeb3])).difference
       (.ofRanges looseVowelRanges))]

/-! ## Words -/

/-- The characters that count as letters of words although they are not alphabetic. -/
def wordSignRanges : RangeTable :=
  [(0xb8, 0xb8), (0x2c2, 0x2c5), (0x2d2, 0x2d7), (0x2de, 0x2df), (0x2e5, 0x2eb), (0x2ed, 0x2ed),
   (0x2ef, 0x2ff), (0x55a, 0x55c), (0x55e, 0x55e), (0x58a, 0x58a), (0x5f3, 0x5f3), (0x70f, 0x70f),
   (0xa708, 0xa716), (0xa720, 0xa721), (0xa789, 0xa78a), (0xab5b, 0xab5b)]

/-- The characters that may stand inside numbers. -/
def midNumberRanges : RangeTable :=
  [(0x2c, 0x2c), (0x3b, 0x3b), (0x37e, 0x37e), (0x589, 0x589), (0x60c, 0x60d), (0x66c, 0x66c),
   (0x7f8, 0x7f8), (0x2044, 0x2044), (0xfe10, 0xfe10), (0xfe14, 0xfe14), (0xfe50, 0xfe50),
   (0xfe54, 0xfe54), (0xff0c, 0xff0c), (0xff1b, 0xff1b)]

/-- The characters that may stand inside words. -/
def midLetterRanges : RangeTable :=
  [(0x3a, 0x3a), (0xb7, 0xb7), (0x387, 0x387), (0x55f, 0x55f), (0x5f4, 0x5f4), (0x2027, 0x2027),
   (0xfe13, 0xfe13), (0xfe55, 0xfe55), (0xff1a, 0xff1a)]

/-- The characters that may stand inside words and numbers. -/
def midBothRanges : RangeTable :=
  [(0x2e, 0x2e), (0x2018, 0x2019), (0x2024, 0x2024), (0xfe52, 0xfe52), (0xff07, 0xff07),
   (0xff0e, 0xff0e)]

/-- The characters of scripts that are written without blanks between words. -/
def undivided : CharSet :=
  .unions (([.hira, .mymr, .lana, .khmr, .talu, .thai, .laoo, .tavt, .ahom, .tale] :
    List Script).map Script.members)

/-- Where words end: the property Word_Break. -/
def wordBreaks : Partition :=
  [(["cr"], .single '\r'),
   (["lf"], .single '\n'),
   (["nl", "newline"], .ofCodes [0xb, 0xc, 0x85, 0x2028, 0x2029]),
   (["zwj"], .single '\u200d'),
   (["extend"], extending.union (.ofCategories [.mc])),
   (["ri", "regionalindicator"], .ofRanges regionalIndicatorRanges),
   (["fo", "format"],
     (CharSet.ofCategories [.cf]).difference (spanningMarks.union (.single '\u200b'))),
   (["ka", "katakana"], Script.kana.members.union
     (.ofRanges [(0x3031, 0x3035), (0x309b, 0x309c), (0x30a0, 0x30a0), (0x30fc, 0x30fc),
       (0xff70, 0xff70)])),
   (["hl", "hebrewletter"], Script.hebr.members.intersection (.ofCategories [.lo])),
   (["sq", "singlequote"], .single '\x27'),
   (["dq", "doublequote"], .single '"'),
   (["mb", "midnumlet"], .ofRanges midBothRanges),
   (["ml", "midletter"], .ofRanges midLetterRanges),
   (["mn", "midnum"], .ofRanges midNumberRanges),
   (["nu", "numeric"], digitsAndSigns.union (.single '\u066b')),
   (["ex", "extendnumlet"], (CharSet.ofCategories [.pc]).union (.single '\u202f')),
   (["le", "aletter"],
     ((established alphabeticRanges).union (.ofRanges wordSignRanges)).difference
       (undivided.union (.ofRanges ideographRanges))),
   (["wsegspace"],
     (CharSet.ofCategories [.zs]).difference (.ofCodes [0xa0, 0x2007, 0x202f]))]

/-! ## Sentences -/

/-- The characters after which a sentence goes on. -/
def clauseBreakRanges : RangeTable :=
  [(0x2c, 0x2d), (0x3a, 0x3b), (0x37e, 0x37e), (0x55d, 0x55d), (0x60c, 0x60d), (0x7f8, 0x7f8),
   (0x1802, 0x1802), (0x1808, 0x1808), (0x2013, 0x2014), (0x3001, 0x3001), (0xfe10, 0xfe11),
   (0xfe13, 0xfe14), (0xfe31, 0xfe32), (0xfe50, 0xfe51), (0xfe54, 0xfe55), (0xfe58, 0xfe58),
   (0xfe63, 0xfe63), (0xff0c, 0xff0d), (0xff1a, 0xff1b), (0xff64, 0xff64)]

/-- The quotation marks that do not show whether they open or close. -/
def straightQuoteRanges : RangeTable :=
  [(0x22, 0x22), (0x27, 0x27), (0x275b, 0x2760), (0x2e00, 0x2e01), (0x2e06, 0x2e08),
   (0x2e0b, 0x2e0b), (0x1f676, 0x1f678)]

/-- The Georgian letters that are small letters without counting as such in sentences. -/
def georgianSmallRanges : RangeTable :=
  [(0x10d0, 0x10fa), (0x10fd, 0x10ff)]

/-- The Georgian letters that are capitals without counting as such in sentences. -/
def georgianCapitalRanges : RangeTable :=
  [(0x1c90, 0x1cba), (0x1cbd, 0x1cbf)]

/-- Where sentences end: the property Sentence_Break. -/
def sentenceBreaks : Partition :=
  [(["cr"], .single '\r'),
   (["lf"], .single '\n'),
   (["ex", "extend"],
     .unions [established graphemeExtendRanges, .ofCategories [.mc], .single '\u200d']),
   (["se", "sep"], .ofCodes [0x85, 0x2028, 0x2029]),
   (["fo", "format"], (CharSet.ofCategories [.cf]).difference spanningMarks),
   (["sp"], .ofRanges blankRanges),
   (["lo", "lower"], lowercase.difference (.ofRanges georgianSmallRanges)),
   (["up", "upper"],
     ((CharSet.ofCategories [.lt]).union uppercase).difference (.ofRanges georgianCapitalRanges)),
   (["le", "oletter"],
     (established alphabeticRanges).union (.ofCodes [0xa0, 0x5f3, 0x70f])),
   (["nu", "numeric"], digitsAndSigns.union (.ofRanges [(0x66b, 0x66c)])),
   (["at", "aterm"], .ofCodes [0x2e, 0x2024, 0xfe52, 0xff0e]),
   (["sc", "scontinue"], .ofRanges clauseBreakRanges),
   (["st", "sterm"], .ofRanges sentenceEndRanges),
   (["cl", "close"],
     (CharSet.ofCategories [.ps, .pe, .pi, .pf]).union (.ofRanges straightQuoteRanges))]

end Workings.Text
