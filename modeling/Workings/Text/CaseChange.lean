import Workings.Text.CategorySet
import Workings.Text.LowerCase

/-!
# Letters that case mappings change

Which characters have case, and which are changed by writing a text in small letters, in capitals,
or with capitals at the beginning of words, or by folding case. Most of them are found in the pairs
of a capital and its small letter.
-/

namespace Workings.Text

/-- The characters with the property Other_Lowercase: small letters of other categories. -/
def otherLowercaseRanges : RangeTable :=
  [(0xaa, 0xaa), (0xba, 0xba), (0x2b0, 0x2b8), (0x2c0, 0x2c1), (0x2e0, 0x2e4), (0x345, 0x345),
   (0x37a, 0x37a), (0x10fc, 0x10fc), (0x1d2c, 0x1d6a), (0x1d78, 0x1d78), (0x1d9b, 0x1dbf),
   (0x2071, 0x2071), (0x207f, 0x207f), (0x2090, 0x209c), (0x2170, 0x217f), (0x24d0, 0x24e9),
   (0x2c7c, 0x2c7d), (0xa69c, 0xa69d), (0xa770, 0xa770), (0xa7f2, 0xa7f4), (0xa7f8, 0xa7f9),
   (0xab5c, 0xab5f), (0xab69, 0xab69), (0x10780, 0x10780), (0x10783, 0x10785), (0x10787, 0x107b0),
   (0x107b2, 0x107ba), (0x1e030, 0x1e06d)]

/-- The characters with the property Other_Uppercase: capitals of other categories. -/
def otherUppercaseRanges : RangeTable :=
  [(0x2160, 0x216f), (0x24b6, 0x24cf), (0x1f130, 0x1f149), (0x1f150, 0x1f169), (0x1f170, 0x1f189)]

/-- The characters with the property Lowercase. -/
def lowercase : CharSet :=
  (CharSet.ofCategories [.ll]).union (.ofRanges otherLowercaseRanges)

/-- The characters with the property Uppercase. -/
def uppercase : CharSet :=
  (CharSet.ofCategories [.lu]).union (.ofRanges otherUppercaseRanges)

/-- The capitals that have a small letter, each with it. -/
def smallLetters : List (Nat × Nat) :=
  (lowerRuns.flatMap fun run => run.codes.map fun code => (code, run.partner code)).filter
    fun (capital, _) => !newest.hasCode capital

/-- The characters that have a capital, or several, which has another small letter or none. -/
def oneWayRanges : RangeTable :=
  [(0xb5, 0xb5), (0x131, 0x131), (0x149, 0x149), (0x17f, 0x17f), (0x1c5, 0x1c5), (0x1c8, 0x1c8),
   (0x1cb, 0x1cb), (0x1f0, 0x1f0), (0x1f2, 0x1f2), (0x345, 0x345), (0x390, 0x390), (0x3b0, 0x3b0),
   (0x3c2, 0x3c2), (0x3d0, 0x3d1), (0x3d5, 0x3d6), (0x3f0, 0x3f1), (0x3f5, 0x3f5), (0x587, 0x587),
   (0x1c80, 0x1c88), (0x1e96, 0x1e9b), (0x1f50, 0x1f50), (0x1f52, 0x1f52), (0x1f54, 0x1f54),
   (0x1f56, 0x1f56), (0x1f88, 0x1f8f), (0x1f98, 0x1f9f), (0x1fa8, 0x1faf), (0x1fb2, 0x1fb2),
   (0x1fb4, 0x1fb4), (0x1fb6, 0x1fb7), (0x1fbc, 0x1fbc), (0x1fbe, 0x1fbe), (0x1fc2, 0x1fc2),
   (0x1fc4, 0x1fc4), (0x1fc6, 0x1fc7), (0x1fcc, 0x1fcc), (0x1fd2, 0x1fd3), (0x1fd6, 0x1fd7),
   (0x1fe2, 0x1fe4), (0x1fe6, 0x1fe7), (0x1ff2, 0x1ff2), (0x1ff4, 0x1ff4), (0x1ff6, 0x1ff7),
   (0x1ffc, 0x1ffc), (0xfb00, 0xfb06), (0xfb13, 0xfb17)]

/-- The characters that may begin a word as they are, although they have capitals: digraphs and
Georgian letters. -/
def titleRanges : RangeTable :=
  [(0x1c5, 0x1c5), (0x1c8, 0x1c8), (0x1cb, 0x1cb), (0x1f2, 0x1f2), (0x10d0, 0x10fa),
   (0x10fd, 0x10ff), (0x1f88, 0x1f8f), (0x1f98, 0x1f9f), (0x1fa8, 0x1faf), (0x1fbc, 0x1fbc),
   (0x1fcc, 0x1fcc), (0x1ffc, 0x1ffc)]

/-- The capital digraphs that are changed at the beginning of a word. -/
def capitalDigraphRanges : RangeTable :=
  [(0x1c4, 0x1c4), (0x1c7, 0x1c7), (0x1ca, 0x1ca), (0x1f1, 0x1f1)]

/-- The small letters that folding changes. -/
def foldedRanges : RangeTable :=
  [(0xb5, 0xb5), (0xdf, 0xdf), (0x149, 0x149), (0x17f, 0x17f), (0x345, 0x345), (0x3c2, 0x3c2),
   (0x3d0, 0x3d1), (0x3d5, 0x3d6), (0x3f0, 0x3f1), (0x3f5, 0x3f5), (0x587, 0x587), (0x13f8, 0x13fd),
   (0x1c80, 0x1c88), (0x1e9a, 0x1e9b), (0x1f80, 0x1f87), (0x1f90, 0x1f97), (0x1fa0, 0x1fa7),
   (0x1fb2, 0x1fb4), (0x1fb7, 0x1fb7), (0x1fc2, 0x1fc4), (0x1fc7, 0x1fc7), (0x1ff2, 0x1ff4),
   (0x1ff7, 0x1ff7), (0xab70, 0xabbf), (0xfb00, 0xfb06), (0xfb13, 0xfb17)]

/-- The capitals that folding keeps. -/
def foldedUpwardRanges : RangeTable :=
  [(0x13a0, 0x13f5)]

/-- The characters that are changed in small letters. The dotted capital becomes two of them. -/
def changesInLowercase : CharSet :=
  .ofCodes ('İ'.toNat :: smallLetters.map Prod.fst)

/-- The characters that are changed in capitals. -/
def changesInUppercase : CharSet :=
  (CharSet.ofCodes (smallLetters.map Prod.snd)).union (.ofRanges oneWayRanges)

/-- The characters that are changed at the beginning of words. -/
def changesInTitle : CharSet :=
  (changesInUppercase.difference (.ofRanges titleRanges)).union (.ofRanges capitalDigraphRanges)

/-- The characters that folding changes. -/
def changesInFolding : CharSet :=
  (changesInLowercase.difference (.ofRanges foldedUpwardRanges)).union (.ofRanges foldedRanges)

end Workings.Text
