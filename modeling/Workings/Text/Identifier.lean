import Workings.Text.CategorySet
import Workings.Text.Punctuation

/-!
# Identifiers

The characters that names in formal languages begin with and go on with. A name of the stricter kind
stays a name when its characters are replaced by compatible ones.
-/

namespace Workings.Text

/-- The characters with the property Other_ID_Start. -/
def otherNameStartRanges : RangeTable :=
  [(0x1885, 0x1886), (0x2118, 0x2118), (0x212e, 0x212e), (0x309b, 0x309c)]

/-- The characters with the property Other_ID_Continue. -/
def otherNameRestRanges : RangeTable :=
  [(0xb7, 0xb7), (0x387, 0x387), (0x1369, 0x1371), (0x19da, 0x19da), (0x200c, 0x200d),
   (0x30fb, 0x30fb), (0xff65, 0xff65)]

/-- The characters that begin names, but not of the stricter kind. -/
def looseStartRanges : RangeTable :=
  [(0x37a, 0x37a), (0xe33, 0xe33), (0xeb3, 0xeb3), (0x309b, 0x309c), (0xfc5e, 0xfc63),
   (0xfdfa, 0xfdfb), (0xfe70, 0xfe70), (0xfe72, 0xfe72), (0xfe74, 0xfe74), (0xfe76, 0xfe76),
   (0xfe78, 0xfe78), (0xfe7a, 0xfe7a), (0xfe7c, 0xfe7c), (0xfe7e, 0xfe7e), (0xff9e, 0xff9f)]

/-- The characters that names go on with, but not those of the stricter kind. -/
def looseRestRanges : RangeTable :=
  [(0x37a, 0x37a), (0x309b, 0x309c), (0xfc5e, 0xfc63), (0xfdfa, 0xfdfb), (0xfe70, 0xfe70),
   (0xfe72, 0xfe72), (0xfe74, 0xfe74), (0xfe76, 0xfe76), (0xfe78, 0xfe78), (0xfe7a, 0xfe7a),
   (0xfe7c, 0xfe7c), (0xfe7e, 0xfe7e)]

/-- The characters with the property ID_Compat_Math_Start. -/
def mathStartRanges : RangeTable :=
  [(0x2202, 0x2202), (0x2207, 0x2207), (0x221e, 0x221e), (0x1d6c1, 0x1d6c1), (0x1d6db, 0x1d6db),
   (0x1d6fb, 0x1d6fb), (0x1d715, 0x1d715), (0x1d735, 0x1d735), (0x1d74f, 0x1d74f),
   (0x1d76f, 0x1d76f), (0x1d789, 0x1d789), (0x1d7a9, 0x1d7a9), (0x1d7c3, 0x1d7c3)]

/-- The raised and lowered characters that names in mathematics go on with. -/
def mathScriptRanges : RangeTable :=
  [(0xb2, 0xb3), (0xb9, 0xb9), (0x2070, 0x2070), (0x2074, 0x207e), (0x2080, 0x208e)]

/-- The characters that rules are written with, which are kept out of names. -/
def ruleSigns : CharSet :=
  .ofRanges ruleSignRanges

/-- The characters with the property ID_Start. -/
def nameStart : CharSet :=
  ((CharSet.ofCategories [.lu, .ll, .lt, .lm, .lo, .nl]).union
    (.ofRanges otherNameStartRanges)).difference ruleSigns

/-- The characters with the property ID_Continue. -/
def nameRest : CharSet :=
  (CharSet.unions [nameStart, .ofCategories [.mn, .mc, .nd, .pc],
    .ofRanges otherNameRestRanges]).difference ruleSigns

/-- The characters with the property XID_Start. -/
def strictNameStart : CharSet :=
  nameStart.difference (.ofRanges looseStartRanges)

/-- The characters with the property XID_Continue. -/
def strictNameRest : CharSet :=
  nameRest.difference (.ofRanges looseRestRanges)

end Workings.Text
