import Workings.Text.CharSet

/-!
# Ages

The version of the character standard that assigned a character, up to version 16. A version knows
the characters of all versions before it.
-/

namespace Workings.Text

/-- A version of the standard. -/
structure Version where
  major : Nat
  minor : Nat
  deriving DecidableEq, Repr, Inhabited

/-- The versions that assigned characters, in their order. -/
def versions : List Version :=
  [⟨1, 1⟩, ⟨2, 0⟩, ⟨2, 1⟩, ⟨3, 0⟩, ⟨3, 1⟩, ⟨3, 2⟩, ⟨4, 0⟩, ⟨4, 1⟩, ⟨5, 0⟩, ⟨5, 1⟩, ⟨5, 2⟩, ⟨6, 0⟩,
   ⟨6, 1⟩, ⟨6, 2⟩, ⟨6, 3⟩, ⟨7, 0⟩, ⟨8, 0⟩, ⟨9, 0⟩, ⟨10, 0⟩, ⟨11, 0⟩, ⟨12, 0⟩, ⟨12, 1⟩, ⟨13, 0⟩,
   ⟨14, 0⟩, ⟨15, 0⟩, ⟨15, 1⟩, ⟨16, 0⟩]

set_option maxRecDepth 100000 in
/-- Where runs of characters begin that one version assigned. The version with two noughts stands
for none. -/
def ageTable : StepTable Version :=
  [(0x0, ⟨1, 1⟩), (0x1f6, ⟨3, 0⟩), (0x1fa, ⟨1, 1⟩), (0x218, ⟨3, 0⟩), (0x220, ⟨3, 2⟩),
   (0x221, ⟨4, 0⟩), (0x222, ⟨3, 0⟩), (0x234, ⟨4, 0⟩), (0x237, ⟨4, 1⟩), (0x242, ⟨5, 0⟩),
   (0x250, ⟨1, 1⟩), (0x2a9, ⟨3, 0⟩), (0x2ae, ⟨4, 0⟩), (0x2b0, ⟨1, 1⟩), (0x2df, ⟨3, 0⟩),
   (0x2e0, ⟨1, 1⟩), (0x2ea, ⟨3, 0⟩), (0x2ef, ⟨4, 0⟩), (0x300, ⟨1, 1⟩), (0x346, ⟨3, 0⟩),
   (0x34f, ⟨3, 2⟩), (0x350, ⟨4, 0⟩), (0x358, ⟨4, 1⟩), (0x35d, ⟨4, 0⟩), (0x360, ⟨1, 1⟩),
   (0x362, ⟨3, 0⟩), (0x363, ⟨3, 2⟩), (0x370, ⟨5, 1⟩), (0x374, ⟨1, 1⟩), (0x376, ⟨5, 1⟩),
   (0x378, ⟨0, 0⟩), (0x37a, ⟨1, 1⟩), (0x37b, ⟨5, 0⟩), (0x37e, ⟨1, 1⟩), (0x37f, ⟨7, 0⟩),
   (0x380, ⟨0, 0⟩), (0x384, ⟨1, 1⟩), (0x38b, ⟨0, 0⟩), (0x38c, ⟨1, 1⟩), (0x38d, ⟨0, 0⟩),
   (0x38e, ⟨1, 1⟩), (0x3a2, ⟨0, 0⟩), (0x3a3, ⟨1, 1⟩), (0x3cf, ⟨5, 1⟩), (0x3d0, ⟨1, 1⟩),
   (0x3d7, ⟨3, 0⟩), (0x3d8, ⟨3, 2⟩), (0x3da, ⟨1, 1⟩), (0x3db, ⟨3, 0⟩), (0x3dc, ⟨1, 1⟩),
   (0x3dd, ⟨3, 0⟩), (0x3de, ⟨1, 1⟩), (0x3df, ⟨3, 0⟩), (0x3e0, ⟨1, 1⟩), (0x3e1, ⟨3, 0⟩),
   (0x3e2, ⟨1, 1⟩), (0x3f4, ⟨3, 1⟩), (0x3f6, ⟨3, 2⟩), (0x3f7, ⟨4, 0⟩), (0x3fc, ⟨4, 1⟩),
   (0x400, ⟨3, 0⟩), (0x401, ⟨1, 1⟩), (0x40d, ⟨3, 0⟩), (0x40e, ⟨1, 1⟩), (0x450, ⟨3, 0⟩),
   (0x451, ⟨1, 1⟩), (0x45d, ⟨3, 0⟩), (0x45e, ⟨1, 1⟩), (0x487, ⟨5, 1⟩), (0x488, ⟨3, 0⟩),
   (0x48a, ⟨3, 2⟩), (0x48c, ⟨3, 0⟩), (0x490, ⟨1, 1⟩), (0x4c5, ⟨3, 2⟩), (0x4c7, ⟨1, 1⟩),
   (0x4c9, ⟨3, 2⟩), (0x4cb, ⟨1, 1⟩), (0x4cd, ⟨3, 2⟩), (0x4cf, ⟨5, 0⟩), (0x4d0, ⟨1, 1⟩),
   (0x4ec, ⟨3, 0⟩), (0x4ee, ⟨1, 1⟩), (0x4f6, ⟨4, 1⟩), (0x4f8, ⟨1, 1⟩), (0x4fa, ⟨5, 0⟩),
   (0x500, ⟨3, 2⟩), (0x510, ⟨5, 0⟩), (0x514, ⟨5, 1⟩), (0x524, ⟨5, 2⟩), (0x526, ⟨6, 0⟩),
   (0x528, ⟨7, 0⟩), (0x530, ⟨0, 0⟩), (0x531, ⟨1, 1⟩), (0x557, ⟨0, 0⟩), (0x559, ⟨1, 1⟩),
   (0x560, ⟨11, 0⟩), (0x561, ⟨1, 1⟩), (0x588, ⟨11, 0⟩), (0x589, ⟨1, 1⟩), (0x58a, ⟨3, 0⟩),
   (0x58b, ⟨0, 0⟩), (0x58d, ⟨7, 0⟩), (0x58f, ⟨6, 1⟩), (0x590, ⟨0, 0⟩), (0x591, ⟨2, 0⟩),
   (0x5a2, ⟨4, 1⟩), (0x5a3, ⟨2, 0⟩), (0x5b0, ⟨1, 1⟩), (0x5ba, ⟨5, 0⟩), (0x5bb, ⟨1, 1⟩),
   (0x5c4, ⟨2, 0⟩), (0x5c5, ⟨4, 1⟩), (0x5c8, ⟨0, 0⟩), (0x5d0, ⟨1, 1⟩), (0x5eb, ⟨0, 0⟩),
   (0x5ef, ⟨11, 0⟩), (0x5f0, ⟨1, 1⟩), (0x5f5, ⟨0, 0⟩), (0x600, ⟨4, 0⟩), (0x604, ⟨6, 1⟩),
   (0x605, ⟨7, 0⟩), (0x606, ⟨5, 1⟩), (0x60b, ⟨4, 1⟩), (0x60c, ⟨1, 1⟩), (0x60d, ⟨4, 0⟩),
   (0x616, ⟨5, 1⟩), (0x61b, ⟨1, 1⟩), (0x61c, ⟨6, 3⟩), (0x61d, ⟨14, 0⟩), (0x61e, ⟨4, 1⟩),
   (0x61f, ⟨1, 1⟩), (0x620, ⟨6, 0⟩), (0x621, ⟨1, 1⟩), (0x63b, ⟨5, 1⟩), (0x640, ⟨1, 1⟩),
   (0x653, ⟨3, 0⟩), (0x656, ⟨4, 0⟩), (0x659, ⟨4, 1⟩), (0x65f, ⟨6, 0⟩), (0x660, ⟨1, 1⟩),
   (0x66e, ⟨3, 2⟩), (0x670, ⟨1, 1⟩), (0x6b8, ⟨3, 0⟩), (0x6ba, ⟨1, 1⟩), (0x6bf, ⟨3, 0⟩),
   (0x6c0, ⟨1, 1⟩), (0x6cf, ⟨3, 0⟩), (0x6d0, ⟨1, 1⟩), (0x6ee, ⟨4, 0⟩), (0x6f0, ⟨1, 1⟩),
   (0x6fa, ⟨3, 0⟩), (0x6ff, ⟨4, 0⟩), (0x700, ⟨3, 0⟩), (0x70e, ⟨0, 0⟩), (0x70f, ⟨3, 0⟩),
   (0x72d, ⟨4, 0⟩), (0x730, ⟨3, 0⟩), (0x74b, ⟨0, 0⟩), (0x74d, ⟨4, 0⟩), (0x750, ⟨4, 1⟩),
   (0x76e, ⟨5, 1⟩), (0x780, ⟨3, 0⟩), (0x7b1, ⟨3, 2⟩), (0x7b2, ⟨0, 0⟩), (0x7c0, ⟨5, 0⟩),
   (0x7fb, ⟨0, 0⟩), (0x7fd, ⟨11, 0⟩), (0x800, ⟨5, 2⟩), (0x82e, ⟨0, 0⟩), (0x830, ⟨5, 2⟩),
   (0x83f, ⟨0, 0⟩), (0x840, ⟨6, 0⟩), (0x85c, ⟨0, 0⟩), (0x85e, ⟨6, 0⟩), (0x85f, ⟨0, 0⟩),
   (0x860, ⟨10, 0⟩), (0x86b, ⟨0, 0⟩), (0x870, ⟨14, 0⟩), (0x88f, ⟨0, 0⟩), (0x890, ⟨14, 0⟩),
   (0x892, ⟨0, 0⟩), (0x897, ⟨16, 0⟩), (0x898, ⟨14, 0⟩), (0x8a0, ⟨6, 1⟩), (0x8a1, ⟨7, 0⟩),
   (0x8a2, ⟨6, 1⟩), (0x8ad, ⟨7, 0⟩), (0x8b3, ⟨8, 0⟩), (0x8b5, ⟨14, 0⟩), (0x8b6, ⟨9, 0⟩),
   (0x8be, ⟨13, 0⟩), (0x8c8, ⟨14, 0⟩), (0x8d3, ⟨11, 0⟩), (0x8d4, ⟨9, 0⟩), (0x8e3, ⟨8, 0⟩),
   (0x8e4, ⟨6, 1⟩), (0x8ff, ⟨7, 0⟩), (0x900, ⟨5, 2⟩), (0x901, ⟨1, 1⟩), (0x904, ⟨4, 0⟩),
   (0x905, ⟨1, 1⟩), (0x93a, ⟨6, 0⟩), (0x93c, ⟨1, 1⟩), (0x94e, ⟨5, 2⟩), (0x94f, ⟨6, 0⟩),
   (0x950, ⟨1, 1⟩), (0x955, ⟨5, 2⟩), (0x956, ⟨6, 0⟩), (0x958, ⟨1, 1⟩), (0x971, ⟨5, 1⟩),
   (0x973, ⟨6, 0⟩), (0x978, ⟨7, 0⟩), (0x979, ⟨5, 2⟩), (0x97b, ⟨5, 0⟩), (0x97d, ⟨4, 1⟩),
   (0x97e, ⟨5, 0⟩), (0x980, ⟨7, 0⟩), (0x981, ⟨1, 1⟩), (0x984, ⟨0, 0⟩), (0x985, ⟨1, 1⟩),
   (0x98d, ⟨0, 0⟩), (0x98f, ⟨1, 1⟩), (0x991, ⟨0, 0⟩), (0x993, ⟨1, 1⟩), (0x9a9, ⟨0, 0⟩),
   (0x9aa, ⟨1, 1⟩), (0x9b1, ⟨0, 0⟩), (0x9b2, ⟨1, 1⟩), (0x9b3, ⟨0, 0⟩), (0x9b6, ⟨1, 1⟩),
   (0x9ba, ⟨0, 0⟩), (0x9bc, ⟨1, 1⟩), (0x9bd, ⟨4, 0⟩), (0x9be, ⟨1, 1⟩), (0x9c5, ⟨0, 0⟩),
   (0x9c7, ⟨1, 1⟩), (0x9c9, ⟨0, 0⟩), (0x9cb, ⟨1, 1⟩), (0x9ce, ⟨4, 1⟩), (0x9cf, ⟨0, 0⟩),
   (0x9d7, ⟨1, 1⟩), (0x9d8, ⟨0, 0⟩), (0x9dc, ⟨1, 1⟩), (0x9de, ⟨0, 0⟩), (0x9df, ⟨1, 1⟩),
   (0x9e4, ⟨0, 0⟩), (0x9e6, ⟨1, 1⟩), (0x9fb, ⟨5, 2⟩), (0x9fc, ⟨10, 0⟩), (0x9fe, ⟨11, 0⟩),
   (0x9ff, ⟨0, 0⟩), (0xa01, ⟨4, 0⟩), (0xa02, ⟨1, 1⟩), (0xa03, ⟨4, 0⟩), (0xa04, ⟨0, 0⟩),
   (0xa05, ⟨1, 1⟩), (0xa0b, ⟨0, 0⟩), (0xa0f, ⟨1, 1⟩), (0xa11, ⟨0, 0⟩), (0xa13, ⟨1, 1⟩),
   (0xa29, ⟨0, 0⟩), (0xa2a, ⟨1, 1⟩), (0xa31, ⟨0, 0⟩), (0xa32, ⟨1, 1⟩), (0xa34, ⟨0, 0⟩),
   (0xa35, ⟨1, 1⟩), (0xa37, ⟨0, 0⟩), (0xa38, ⟨1, 1⟩), (0xa3a, ⟨0, 0⟩), (0xa3c, ⟨1, 1⟩),
   (0xa3d, ⟨0, 0⟩), (0xa3e, ⟨1, 1⟩), (0xa43, ⟨0, 0⟩), (0xa47, ⟨1, 1⟩), (0xa49, ⟨0, 0⟩),
   (0xa4b, ⟨1, 1⟩), (0xa4e, ⟨0, 0⟩), (0xa51, ⟨5, 1⟩), (0xa52, ⟨0, 0⟩), (0xa59, ⟨1, 1⟩),
   (0xa5d, ⟨0, 0⟩), (0xa5e, ⟨1, 1⟩), (0xa5f, ⟨0, 0⟩), (0xa66, ⟨1, 1⟩), (0xa75, ⟨5, 1⟩),
   (0xa76, ⟨11, 0⟩), (0xa77, ⟨0, 0⟩), (0xa81, ⟨1, 1⟩), (0xa84, ⟨0, 0⟩), (0xa85, ⟨1, 1⟩),
   (0xa8c, ⟨4, 0⟩), (0xa8d, ⟨1, 1⟩), (0xa8e, ⟨0, 0⟩), (0xa8f, ⟨1, 1⟩), (0xa92, ⟨0, 0⟩),
   (0xa93, ⟨1, 1⟩), (0xaa9, ⟨0, 0⟩), (0xaaa, ⟨1, 1⟩), (0xab1, ⟨0, 0⟩), (0xab2, ⟨1, 1⟩),
   (0xab4, ⟨0, 0⟩), (0xab5, ⟨1, 1⟩), (0xaba, ⟨0, 0⟩), (0xabc, ⟨1, 1⟩), (0xac6, ⟨0, 0⟩),
   (0xac7, ⟨1, 1⟩), (0xaca, ⟨0, 0⟩), (0xacb, ⟨1, 1⟩), (0xace, ⟨0, 0⟩), (0xad0, ⟨1, 1⟩),
   (0xad1, ⟨0, 0⟩), (0xae0, ⟨1, 1⟩), (0xae1, ⟨4, 0⟩), (0xae4, ⟨0, 0⟩), (0xae6, ⟨1, 1⟩),
   (0xaf0, ⟨6, 1⟩), (0xaf1, ⟨4, 0⟩), (0xaf2, ⟨0, 0⟩), (0xaf9, ⟨8, 0⟩), (0xafa, ⟨10, 0⟩),
   (0xb00, ⟨0, 0⟩), (0xb01, ⟨1, 1⟩), (0xb04, ⟨0, 0⟩), (0xb05, ⟨1, 1⟩), (0xb0d, ⟨0, 0⟩),
   (0xb0f, ⟨1, 1⟩), (0xb11, ⟨0, 0⟩), (0xb13, ⟨1, 1⟩), (0xb29, ⟨0, 0⟩), (0xb2a, ⟨1, 1⟩),
   (0xb31, ⟨0, 0⟩), (0xb32, ⟨1, 1⟩), (0xb34, ⟨0, 0⟩), (0xb35, ⟨4, 0⟩), (0xb36, ⟨1, 1⟩),
   (0xb3a, ⟨0, 0⟩), (0xb3c, ⟨1, 1⟩), (0xb44, ⟨5, 1⟩), (0xb45, ⟨0, 0⟩), (0xb47, ⟨1, 1⟩),
   (0xb49, ⟨0, 0⟩), (0xb4b, ⟨1, 1⟩), (0xb4e, ⟨0, 0⟩), (0xb55, ⟨13, 0⟩), (0xb56, ⟨1, 1⟩),
   (0xb58, ⟨0, 0⟩), (0xb5c, ⟨1, 1⟩), (0xb5e, ⟨0, 0⟩), (0xb5f, ⟨1, 1⟩), (0xb62, ⟨5, 1⟩),
   (0xb64, ⟨0, 0⟩), (0xb66, ⟨1, 1⟩), (0xb71, ⟨4, 0⟩), (0xb72, ⟨6, 0⟩), (0xb78, ⟨0, 0⟩),
   (0xb82, ⟨1, 1⟩), (0xb84, ⟨0, 0⟩), (0xb85, ⟨1, 1⟩), (0xb8b, ⟨0, 0⟩), (0xb8e, ⟨1, 1⟩),
   (0xb91, ⟨0, 0⟩), (0xb92, ⟨1, 1⟩), (0xb96, ⟨0, 0⟩), (0xb99, ⟨1, 1⟩), (0xb9b, ⟨0, 0⟩),
   (0xb9c, ⟨1, 1⟩), (0xb9d, ⟨0, 0⟩), (0xb9e, ⟨1, 1⟩), (0xba0, ⟨0, 0⟩), (0xba3, ⟨1, 1⟩),
   (0xba5, ⟨0, 0⟩), (0xba8, ⟨1, 1⟩), (0xbab, ⟨0, 0⟩), (0xbae, ⟨1, 1⟩), (0xbb6, ⟨4, 1⟩),
   (0xbb7, ⟨1, 1⟩), (0xbba, ⟨0, 0⟩), (0xbbe, ⟨1, 1⟩), (0xbc3, ⟨0, 0⟩), (0xbc6, ⟨1, 1⟩),
   (0xbc9, ⟨0, 0⟩), (0xbca, ⟨1, 1⟩), (0xbce, ⟨0, 0⟩), (0xbd0, ⟨5, 1⟩), (0xbd1, ⟨0, 0⟩),
   (0xbd7, ⟨1, 1⟩), (0xbd8, ⟨0, 0⟩), (0xbe6, ⟨4, 1⟩), (0xbe7, ⟨1, 1⟩), (0xbf3, ⟨4, 0⟩),
   (0xbfb, ⟨0, 0⟩), (0xc00, ⟨7, 0⟩), (0xc01, ⟨1, 1⟩), (0xc04, ⟨11, 0⟩), (0xc05, ⟨1, 1⟩),
   (0xc0d, ⟨0, 0⟩), (0xc0e, ⟨1, 1⟩), (0xc11, ⟨0, 0⟩), (0xc12, ⟨1, 1⟩), (0xc29, ⟨0, 0⟩),
   (0xc2a, ⟨1, 1⟩), (0xc34, ⟨7, 0⟩), (0xc35, ⟨1, 1⟩), (0xc3a, ⟨0, 0⟩), (0xc3c, ⟨14, 0⟩),
   (0xc3d, ⟨5, 1⟩), (0xc3e, ⟨1, 1⟩), (0xc45, ⟨0, 0⟩), (0xc46, ⟨1, 1⟩), (0xc49, ⟨0, 0⟩),
   (0xc4a, ⟨1, 1⟩), (0xc4e, ⟨0, 0⟩), (0xc55, ⟨1, 1⟩), (0xc57, ⟨0, 0⟩), (0xc58, ⟨5, 1⟩),
   (0xc5a, ⟨8, 0⟩), (0xc5b, ⟨0, 0⟩), (0xc5d, ⟨14, 0⟩), (0xc5e, ⟨0, 0⟩), (0xc60, ⟨1, 1⟩),
   (0xc62, ⟨5, 1⟩), (0xc64, ⟨0, 0⟩), (0xc66, ⟨1, 1⟩), (0xc70, ⟨0, 0⟩), (0xc77, ⟨12, 0⟩),
   (0xc78, ⟨5, 1⟩), (0xc80, ⟨9, 0⟩), (0xc81, ⟨7, 0⟩), (0xc82, ⟨1, 1⟩), (0xc84, ⟨11, 0⟩),
   (0xc85, ⟨1, 1⟩), (0xc8d, ⟨0, 0⟩), (0xc8e, ⟨1, 1⟩), (0xc91, ⟨0, 0⟩), (0xc92, ⟨1, 1⟩),
   (0xca9, ⟨0, 0⟩), (0xcaa, ⟨1, 1⟩), (0xcb4, ⟨0, 0⟩), (0xcb5, ⟨1, 1⟩), (0xcba, ⟨0, 0⟩),
   (0xcbc, ⟨4, 0⟩), (0xcbe, ⟨1, 1⟩), (0xcc5, ⟨0, 0⟩), (0xcc6, ⟨1, 1⟩), (0xcc9, ⟨0, 0⟩),
   (0xcca, ⟨1, 1⟩), (0xcce, ⟨0, 0⟩), (0xcd5, ⟨1, 1⟩), (0xcd7, ⟨0, 0⟩), (0xcdd, ⟨14, 0⟩),
   (0xcde, ⟨1, 1⟩), (0xcdf, ⟨0, 0⟩), (0xce0, ⟨1, 1⟩), (0xce2, ⟨5, 0⟩), (0xce4, ⟨0, 0⟩),
   (0xce6, ⟨1, 1⟩), (0xcf0, ⟨0, 0⟩), (0xcf1, ⟨5, 0⟩), (0xcf3, ⟨15, 0⟩), (0xcf4, ⟨0, 0⟩),
   (0xd00, ⟨10, 0⟩), (0xd01, ⟨7, 0⟩), (0xd02, ⟨1, 1⟩), (0xd04, ⟨13, 0⟩), (0xd05, ⟨1, 1⟩),
   (0xd0d, ⟨0, 0⟩), (0xd0e, ⟨1, 1⟩), (0xd11, ⟨0, 0⟩), (0xd12, ⟨1, 1⟩), (0xd29, ⟨6, 0⟩),
   (0xd2a, ⟨1, 1⟩), (0xd3a, ⟨6, 0⟩), (0xd3b, ⟨10, 0⟩), (0xd3d, ⟨5, 1⟩), (0xd3e, ⟨1, 1⟩),
   (0xd44, ⟨5, 1⟩), (0xd45, ⟨0, 0⟩), (0xd46, ⟨1, 1⟩), (0xd49, ⟨0, 0⟩), (0xd4a, ⟨1, 1⟩),
   (0xd4e, ⟨6, 0⟩), (0xd4f, ⟨9, 0⟩), (0xd50, ⟨0, 0⟩), (0xd54, ⟨9, 0⟩), (0xd57, ⟨1, 1⟩),
   (0xd58, ⟨9, 0⟩), (0xd5f, ⟨8, 0⟩), (0xd60, ⟨1, 1⟩), (0xd62, ⟨5, 1⟩), (0xd64, ⟨0, 0⟩),
   (0xd66, ⟨1, 1⟩), (0xd70, ⟨5, 1⟩), (0xd76, ⟨9, 0⟩), (0xd79, ⟨5, 1⟩), (0xd80, ⟨0, 0⟩),
   (0xd81, ⟨13, 0⟩), (0xd82, ⟨3, 0⟩), (0xd84, ⟨0, 0⟩), (0xd85, ⟨3, 0⟩), (0xd97, ⟨0, 0⟩),
   (0xd9a, ⟨3, 0⟩), (0xdb2, ⟨0, 0⟩), (0xdb3, ⟨3, 0⟩), (0xdbc, ⟨0, 0⟩), (0xdbd, ⟨3, 0⟩),
   (0xdbe, ⟨0, 0⟩), (0xdc0, ⟨3, 0⟩), (0xdc7, ⟨0, 0⟩), (0xdca, ⟨3, 0⟩), (0xdcb, ⟨0, 0⟩),
   (0xdcf, ⟨3, 0⟩), (0xdd5, ⟨0, 0⟩), (0xdd6, ⟨3, 0⟩), (0xdd7, ⟨0, 0⟩), (0xdd8, ⟨3, 0⟩),
   (0xde0, ⟨0, 0⟩), (0xde6, ⟨7, 0⟩), (0xdf0, ⟨0, 0⟩), (0xdf2, ⟨3, 0⟩), (0xdf5, ⟨0, 0⟩),
   (0xe01, ⟨1, 1⟩), (0xe3b, ⟨0, 0⟩), (0xe3f, ⟨1, 1⟩), (0xe5c, ⟨0, 0⟩), (0xe81, ⟨1, 1⟩),
   (0xe83, ⟨0, 0⟩), (0xe84, ⟨1, 1⟩), (0xe85, ⟨0, 0⟩), (0xe86, ⟨12, 0⟩), (0xe87, ⟨1, 1⟩),
   (0xe89, ⟨12, 0⟩), (0xe8a, ⟨1, 1⟩), (0xe8b, ⟨0, 0⟩), (0xe8c, ⟨12, 0⟩), (0xe8d, ⟨1, 1⟩),
   (0xe8e, ⟨12, 0⟩), (0xe94, ⟨1, 1⟩), (0xe98, ⟨12, 0⟩), (0xe99, ⟨1, 1⟩), (0xea0, ⟨12, 0⟩),
   (0xea1, ⟨1, 1⟩), (0xea4, ⟨0, 0⟩), (0xea5, ⟨1, 1⟩), (0xea6, ⟨0, 0⟩), (0xea7, ⟨1, 1⟩),
   (0xea8, ⟨12, 0⟩), (0xeaa, ⟨1, 1⟩), (0xeac, ⟨12, 0⟩), (0xead, ⟨1, 1⟩), (0xeba, ⟨12, 0⟩),
   (0xebb, ⟨1, 1⟩), (0xebe, ⟨0, 0⟩), (0xec0, ⟨1, 1⟩), (0xec5, ⟨0, 0⟩), (0xec6, ⟨1, 1⟩),
   (0xec7, ⟨0, 0⟩), (0xec8, ⟨1, 1⟩), (0xece, ⟨15, 0⟩), (0xecf, ⟨0, 0⟩), (0xed0, ⟨1, 1⟩),
   (0xeda, ⟨0, 0⟩), (0xedc, ⟨1, 1⟩), (0xede, ⟨6, 1⟩), (0xee0, ⟨0, 0⟩), (0xf00, ⟨2, 0⟩),
   (0xf48, ⟨0, 0⟩), (0xf49, ⟨2, 0⟩), (0xf6a, ⟨3, 0⟩), (0xf6b, ⟨5, 1⟩), (0xf6d, ⟨0, 0⟩),
   (0xf71, ⟨2, 0⟩), (0xf8c, ⟨6, 0⟩), (0xf90, ⟨2, 0⟩), (0xf96, ⟨3, 0⟩), (0xf97, ⟨2, 0⟩),
   (0xf98, ⟨0, 0⟩), (0xf99, ⟨2, 0⟩), (0xfae, ⟨3, 0⟩), (0xfb1, ⟨2, 0⟩), (0xfb8, ⟨3, 0⟩),
   (0xfb9, ⟨2, 0⟩), (0xfba, ⟨3, 0⟩), (0xfbd, ⟨0, 0⟩), (0xfbe, ⟨3, 0⟩), (0xfcd, ⟨0, 0⟩),
   (0xfce, ⟨5, 1⟩), (0xfcf, ⟨3, 0⟩), (0xfd0, ⟨4, 1⟩), (0xfd2, ⟨5, 1⟩), (0xfd5, ⟨5, 2⟩),
   (0xfd9, ⟨6, 0⟩), (0xfdb, ⟨0, 0⟩), (0x1000, ⟨3, 0⟩), (0x1022, ⟨5, 1⟩), (0x1023, ⟨3, 0⟩),
   (0x1028, ⟨5, 1⟩), (0x1029, ⟨3, 0⟩), (0x102b, ⟨5, 1⟩), (0x102c, ⟨3, 0⟩), (0x1033, ⟨5, 1⟩),
   (0x1036, ⟨3, 0⟩), (0x103a, ⟨5, 1⟩), (0x1040, ⟨3, 0⟩), (0x105a, ⟨5, 1⟩), (0x109a, ⟨5, 2⟩),
   (0x109e, ⟨5, 1⟩), (0x10a0, ⟨1, 1⟩), (0x10c6, ⟨0, 0⟩), (0x10c7, ⟨6, 1⟩), (0x10c8, ⟨0, 0⟩),
   (0x10cd, ⟨6, 1⟩), (0x10ce, ⟨0, 0⟩), (0x10d0, ⟨1, 1⟩), (0x10f7, ⟨3, 2⟩), (0x10f9, ⟨4, 1⟩),
   (0x10fb, ⟨1, 1⟩), (0x10fc, ⟨4, 1⟩), (0x10fd, ⟨6, 1⟩), (0x1100, ⟨1, 1⟩), (0x115a, ⟨5, 2⟩),
   (0x115f, ⟨1, 1⟩), (0x11a3, ⟨5, 2⟩), (0x11a8, ⟨1, 1⟩), (0x11fa, ⟨5, 2⟩), (0x1200, ⟨3, 0⟩),
   (0x1207, ⟨4, 1⟩), (0x1208, ⟨3, 0⟩), (0x1247, ⟨4, 1⟩), (0x1248, ⟨3, 0⟩), (0x1249, ⟨0, 0⟩),
   (0x124a, ⟨3, 0⟩), (0x124e, ⟨0, 0⟩), (0x1250, ⟨3, 0⟩), (0x1257, ⟨0, 0⟩), (0x1258, ⟨3, 0⟩),
   (0x1259, ⟨0, 0⟩), (0x125a, ⟨3, 0⟩), (0x125e, ⟨0, 0⟩), (0x1260, ⟨3, 0⟩), (0x1287, ⟨4, 1⟩),
   (0x1288, ⟨3, 0⟩), (0x1289, ⟨0, 0⟩), (0x128a, ⟨3, 0⟩), (0x128e, ⟨0, 0⟩), (0x1290, ⟨3, 0⟩),
   (0x12af, ⟨4, 1⟩), (0x12b0, ⟨3, 0⟩), (0x12b1, ⟨0, 0⟩), (0x12b2, ⟨3, 0⟩), (0x12b6, ⟨0, 0⟩),
   (0x12b8, ⟨3, 0⟩), (0x12bf, ⟨0, 0⟩), (0x12c0, ⟨3, 0⟩), (0x12c1, ⟨0, 0⟩), (0x12c2, ⟨3, 0⟩),
   (0x12c6, ⟨0, 0⟩), (0x12c8, ⟨3, 0⟩), (0x12cf, ⟨4, 1⟩), (0x12d0, ⟨3, 0⟩), (0x12d7, ⟨0, 0⟩),
   (0x12d8, ⟨3, 0⟩), (0x12ef, ⟨4, 1⟩), (0x12f0, ⟨3, 0⟩), (0x130f, ⟨4, 1⟩), (0x1310, ⟨3, 0⟩),
   (0x1311, ⟨0, 0⟩), (0x1312, ⟨3, 0⟩), (0x1316, ⟨0, 0⟩), (0x1318, ⟨3, 0⟩), (0x131f, ⟨4, 1⟩),
   (0x1320, ⟨3, 0⟩), (0x1347, ⟨4, 1⟩), (0x1348, ⟨3, 0⟩), (0x135b, ⟨0, 0⟩), (0x135d, ⟨6, 0⟩),
   (0x135f, ⟨4, 1⟩), (0x1361, ⟨3, 0⟩), (0x137d, ⟨0, 0⟩), (0x1380, ⟨4, 1⟩), (0x139a, ⟨0, 0⟩),
   (0x13a0, ⟨3, 0⟩), (0x13f5, ⟨8, 0⟩), (0x13f6, ⟨0, 0⟩), (0x13f8, ⟨8, 0⟩), (0x13fe, ⟨0, 0⟩),
   (0x1400, ⟨5, 2⟩), (0x1401, ⟨3, 0⟩), (0x1677, ⟨5, 2⟩), (0x1680, ⟨3, 0⟩), (0x169d, ⟨0, 0⟩),
   (0x16a0, ⟨3, 0⟩), (0x16f1, ⟨7, 0⟩), (0x16f9, ⟨0, 0⟩), (0x1700, ⟨3, 2⟩), (0x170d, ⟨14, 0⟩),
   (0x170e, ⟨3, 2⟩), (0x1715, ⟨14, 0⟩), (0x1716, ⟨0, 0⟩), (0x171f, ⟨14, 0⟩), (0x1720, ⟨3, 2⟩),
   (0x1737, ⟨0, 0⟩), (0x1740, ⟨3, 2⟩), (0x1754, ⟨0, 0⟩), (0x1760, ⟨3, 2⟩), (0x176d, ⟨0, 0⟩),
   (0x176e, ⟨3, 2⟩), (0x1771, ⟨0, 0⟩), (0x1772, ⟨3, 2⟩), (0x1774, ⟨0, 0⟩), (0x1780, ⟨3, 0⟩),
   (0x17dd, ⟨4, 0⟩), (0x17de, ⟨0, 0⟩), (0x17e0, ⟨3, 0⟩), (0x17ea, ⟨0, 0⟩), (0x17f0, ⟨4, 0⟩),
   (0x17fa, ⟨0, 0⟩), (0x1800, ⟨3, 0⟩), (0x180f, ⟨14, 0⟩), (0x1810, ⟨3, 0⟩), (0x181a, ⟨0, 0⟩),
   (0x1820, ⟨3, 0⟩), (0x1878, ⟨11, 0⟩), (0x1879, ⟨0, 0⟩), (0x1880, ⟨3, 0⟩), (0x18aa, ⟨5, 1⟩),
   (0x18ab, ⟨0, 0⟩), (0x18b0, ⟨5, 2⟩), (0x18f6, ⟨0, 0⟩), (0x1900, ⟨4, 0⟩), (0x191d, ⟨7, 0⟩),
   (0x191f, ⟨0, 0⟩), (0x1920, ⟨4, 0⟩), (0x192c, ⟨0, 0⟩), (0x1930, ⟨4, 0⟩), (0x193c, ⟨0, 0⟩),
   (0x1940, ⟨4, 0⟩), (0x1941, ⟨0, 0⟩), (0x1944, ⟨4, 0⟩), (0x196e, ⟨0, 0⟩), (0x1970, ⟨4, 0⟩),
   (0x1975, ⟨0, 0⟩), (0x1980, ⟨4, 1⟩), (0x19aa, ⟨5, 2⟩), (0x19ac, ⟨0, 0⟩), (0x19b0, ⟨4, 1⟩),
   (0x19ca, ⟨0, 0⟩), (0x19d0, ⟨4, 1⟩), (0x19da, ⟨5, 2⟩), (0x19db, ⟨0, 0⟩), (0x19de, ⟨4, 1⟩),
   (0x19e0, ⟨4, 0⟩), (0x1a00, ⟨4, 1⟩), (0x1a1c, ⟨0, 0⟩), (0x1a1e, ⟨4, 1⟩), (0x1a20, ⟨5, 2⟩),
   (0x1a5f, ⟨0, 0⟩), (0x1a60, ⟨5, 2⟩), (0x1a7d, ⟨0, 0⟩), (0x1a7f, ⟨5, 2⟩), (0x1a8a, ⟨0, 0⟩),
   (0x1a90, ⟨5, 2⟩), (0x1a9a, ⟨0, 0⟩), (0x1aa0, ⟨5, 2⟩), (0x1aae, ⟨0, 0⟩), (0x1ab0, ⟨7, 0⟩),
   (0x1abf, ⟨13, 0⟩), (0x1ac1, ⟨14, 0⟩), (0x1acf, ⟨0, 0⟩), (0x1b00, ⟨5, 0⟩), (0x1b4c, ⟨14, 0⟩),
   (0x1b4d, ⟨0, 0⟩), (0x1b4e, ⟨16, 0⟩), (0x1b50, ⟨5, 0⟩), (0x1b7d, ⟨14, 0⟩), (0x1b7f, ⟨16, 0⟩),
   (0x1b80, ⟨5, 1⟩), (0x1bab, ⟨6, 1⟩), (0x1bae, ⟨5, 1⟩), (0x1bba, ⟨6, 1⟩), (0x1bc0, ⟨6, 0⟩),
   (0x1bf4, ⟨0, 0⟩), (0x1bfc, ⟨6, 0⟩), (0x1c00, ⟨5, 1⟩), (0x1c38, ⟨0, 0⟩), (0x1c3b, ⟨5, 1⟩),
   (0x1c4a, ⟨0, 0⟩), (0x1c4d, ⟨5, 1⟩), (0x1c80, ⟨9, 0⟩), (0x1c89, ⟨16, 0⟩), (0x1c8b, ⟨0, 0⟩),
   (0x1c90, ⟨11, 0⟩), (0x1cbb, ⟨0, 0⟩), (0x1cbd, ⟨11, 0⟩), (0x1cc0, ⟨6, 1⟩), (0x1cc8, ⟨0, 0⟩),
   (0x1cd0, ⟨5, 2⟩), (0x1cf3, ⟨6, 1⟩), (0x1cf7, ⟨10, 0⟩), (0x1cf8, ⟨7, 0⟩), (0x1cfa, ⟨12, 0⟩),
   (0x1cfb, ⟨0, 0⟩), (0x1d00, ⟨4, 0⟩), (0x1d6c, ⟨4, 1⟩), (0x1dc4, ⟨5, 0⟩), (0x1dcb, ⟨5, 1⟩),
   (0x1de7, ⟨7, 0⟩), (0x1df6, ⟨10, 0⟩), (0x1dfa, ⟨14, 0⟩), (0x1dfb, ⟨9, 0⟩), (0x1dfc, ⟨6, 0⟩),
   (0x1dfd, ⟨5, 2⟩), (0x1dfe, ⟨5, 0⟩), (0x1e00, ⟨1, 1⟩), (0x1e9b, ⟨2, 0⟩), (0x1e9c, ⟨5, 1⟩),
   (0x1ea0, ⟨1, 1⟩), (0x1efa, ⟨5, 1⟩), (0x1f00, ⟨1, 1⟩), (0x1f16, ⟨0, 0⟩), (0x1f18, ⟨1, 1⟩),
   (0x1f1e, ⟨0, 0⟩), (0x1f20, ⟨1, 1⟩), (0x1f46, ⟨0, 0⟩), (0x1f48, ⟨1, 1⟩), (0x1f4e, ⟨0, 0⟩),
   (0x1f50, ⟨1, 1⟩), (0x1f58, ⟨0, 0⟩), (0x1f59, ⟨1, 1⟩), (0x1f5a, ⟨0, 0⟩), (0x1f5b, ⟨1, 1⟩),
   (0x1f5c, ⟨0, 0⟩), (0x1f5d, ⟨1, 1⟩), (0x1f5e, ⟨0, 0⟩), (0x1f5f, ⟨1, 1⟩), (0x1f7e, ⟨0, 0⟩),
   (0x1f80, ⟨1, 1⟩), (0x1fb5, ⟨0, 0⟩), (0x1fb6, ⟨1, 1⟩), (0x1fc5, ⟨0, 0⟩), (0x1fc6, ⟨1, 1⟩),
   (0x1fd4, ⟨0, 0⟩), (0x1fd6, ⟨1, 1⟩), (0x1fdc, ⟨0, 0⟩), (0x1fdd, ⟨1, 1⟩), (0x1ff0, ⟨0, 0⟩),
   (0x1ff2, ⟨1, 1⟩), (0x1ff5, ⟨0, 0⟩), (0x1ff6, ⟨1, 1⟩), (0x1fff, ⟨0, 0⟩), (0x2000, ⟨1, 1⟩),
   (0x202f, ⟨3, 0⟩), (0x2030, ⟨1, 1⟩), (0x2047, ⟨3, 2⟩), (0x2048, ⟨3, 0⟩), (0x204e, ⟨3, 2⟩),
   (0x2053, ⟨4, 0⟩), (0x2055, ⟨4, 1⟩), (0x2057, ⟨3, 2⟩), (0x2058, ⟨4, 1⟩), (0x205f, ⟨3, 2⟩),
   (0x2064, ⟨5, 1⟩), (0x2065, ⟨0, 0⟩), (0x2066, ⟨6, 3⟩), (0x206a, ⟨1, 1⟩), (0x2071, ⟨3, 2⟩),
   (0x2072, ⟨0, 0⟩), (0x2074, ⟨1, 1⟩), (0x208f, ⟨0, 0⟩), (0x2090, ⟨4, 1⟩), (0x2095, ⟨6, 0⟩),
   (0x209d, ⟨0, 0⟩), (0x20a0, ⟨1, 1⟩), (0x20ab, ⟨2, 0⟩), (0x20ac, ⟨2, 1⟩), (0x20ad, ⟨3, 0⟩),
   (0x20b0, ⟨3, 2⟩), (0x20b2, ⟨4, 1⟩), (0x20b6, ⟨5, 2⟩), (0x20b9, ⟨6, 0⟩), (0x20ba, ⟨6, 2⟩),
   (0x20bb, ⟨7, 0⟩), (0x20be, ⟨8, 0⟩), (0x20bf, ⟨10, 0⟩), (0x20c0, ⟨14, 0⟩), (0x20c1, ⟨0, 0⟩),
   (0x20d0, ⟨1, 1⟩), (0x20e2, ⟨3, 0⟩), (0x20e4, ⟨3, 2⟩), (0x20eb, ⟨4, 1⟩), (0x20ec, ⟨5, 0⟩),
   (0x20f0, ⟨5, 1⟩), (0x20f1, ⟨0, 0⟩), (0x2100, ⟨1, 1⟩), (0x2139, ⟨3, 0⟩), (0x213b, ⟨4, 0⟩),
   (0x213c, ⟨4, 1⟩), (0x213d, ⟨3, 2⟩), (0x214c, ⟨4, 1⟩), (0x214d, ⟨5, 0⟩), (0x214f, ⟨5, 1⟩),
   (0x2150, ⟨5, 2⟩), (0x2153, ⟨1, 1⟩), (0x2183, ⟨3, 0⟩), (0x2184, ⟨5, 0⟩), (0x2185, ⟨5, 1⟩),
   (0x2189, ⟨5, 2⟩), (0x218a, ⟨8, 0⟩), (0x218c, ⟨0, 0⟩), (0x2190, ⟨1, 1⟩), (0x21eb, ⟨3, 0⟩),
   (0x21f4, ⟨3, 2⟩), (0x2200, ⟨1, 1⟩), (0x22f2, ⟨3, 2⟩), (0x2300, ⟨1, 1⟩), (0x2301, ⟨3, 0⟩),
   (0x2302, ⟨1, 1⟩), (0x237b, ⟨3, 0⟩), (0x237c, ⟨3, 2⟩), (0x237d, ⟨3, 0⟩), (0x239b, ⟨3, 2⟩),
   (0x23cf, ⟨4, 0⟩), (0x23d1, ⟨4, 1⟩), (0x23dc, ⟨5, 0⟩), (0x23e8, ⟨5, 2⟩), (0x23e9, ⟨6, 0⟩),
   (0x23f4, ⟨7, 0⟩), (0x23fb, ⟨9, 0⟩), (0x23ff, ⟨10, 0⟩), (0x2400, ⟨1, 1⟩), (0x2425, ⟨3, 0⟩),
   (0x2427, ⟨16, 0⟩), (0x242a, ⟨0, 0⟩), (0x2440, ⟨1, 1⟩), (0x244b, ⟨0, 0⟩), (0x2460, ⟨1, 1⟩),
   (0x24eb, ⟨3, 2⟩), (0x24ff, ⟨4, 0⟩), (0x2500, ⟨1, 1⟩), (0x2596, ⟨3, 2⟩), (0x25a0, ⟨1, 1⟩),
   (0x25f0, ⟨3, 0⟩), (0x25f8, ⟨3, 2⟩), (0x2600, ⟨1, 1⟩), (0x2614, ⟨4, 0⟩), (0x2616, ⟨3, 2⟩),
   (0x2618, ⟨4, 1⟩), (0x2619, ⟨3, 0⟩), (0x261a, ⟨1, 1⟩), (0x2670, ⟨3, 0⟩), (0x2672, ⟨3, 2⟩),
   (0x267e, ⟨4, 1⟩), (0x2680, ⟨3, 2⟩), (0x268a, ⟨4, 0⟩), (0x2692, ⟨4, 1⟩), (0x269d, ⟨5, 1⟩),
   (0x269e, ⟨5, 2⟩), (0x26a0, ⟨4, 0⟩), (0x26a2, ⟨4, 1⟩), (0x26b2, ⟨5, 0⟩), (0x26b3, ⟨5, 1⟩),
   (0x26bd, ⟨5, 2⟩), (0x26c0, ⟨5, 1⟩), (0x26c4, ⟨5, 2⟩), (0x26ce, ⟨6, 0⟩), (0x26cf, ⟨5, 2⟩),
   (0x26e2, ⟨6, 0⟩), (0x26e3, ⟨5, 2⟩), (0x26e4, ⟨6, 0⟩), (0x26e8, ⟨5, 2⟩), (0x2700, ⟨7, 0⟩),
   (0x2701, ⟨1, 1⟩), (0x2705, ⟨6, 0⟩), (0x2706, ⟨1, 1⟩), (0x270a, ⟨6, 0⟩), (0x270c, ⟨1, 1⟩),
   (0x2728, ⟨6, 0⟩), (0x2729, ⟨1, 1⟩), (0x274c, ⟨6, 0⟩), (0x274d, ⟨1, 1⟩), (0x274e, ⟨6, 0⟩),
   (0x274f, ⟨1, 1⟩), (0x2753, ⟨6, 0⟩), (0x2756, ⟨1, 1⟩), (0x2757, ⟨5, 2⟩), (0x2758, ⟨1, 1⟩),
   (0x275f, ⟨6, 0⟩), (0x2761, ⟨1, 1⟩), (0x2768, ⟨3, 2⟩), (0x2776, ⟨1, 1⟩), (0x2795, ⟨6, 0⟩),
   (0x2798, ⟨1, 1⟩), (0x27b0, ⟨6, 0⟩), (0x27b1, ⟨1, 1⟩), (0x27bf, ⟨6, 0⟩), (0x27c0, ⟨4, 1⟩),
   (0x27c7, ⟨5, 0⟩), (0x27cb, ⟨6, 1⟩), (0x27cc, ⟨5, 1⟩), (0x27cd, ⟨6, 1⟩), (0x27ce, ⟨6, 0⟩),
   (0x27d0, ⟨3, 2⟩), (0x27ec, ⟨5, 1⟩), (0x27f0, ⟨3, 2⟩), (0x2800, ⟨3, 0⟩), (0x2900, ⟨3, 2⟩),
   (0x2b00, ⟨4, 0⟩), (0x2b0e, ⟨4, 1⟩), (0x2b14, ⟨5, 0⟩), (0x2b1b, ⟨5, 1⟩), (0x2b20, ⟨5, 0⟩),
   (0x2b24, ⟨5, 1⟩), (0x2b4d, ⟨7, 0⟩), (0x2b50, ⟨5, 1⟩), (0x2b55, ⟨5, 2⟩), (0x2b5a, ⟨7, 0⟩),
   (0x2b74, ⟨0, 0⟩), (0x2b76, ⟨7, 0⟩), (0x2b96, ⟨0, 0⟩), (0x2b97, ⟨13, 0⟩), (0x2b98, ⟨7, 0⟩),
   (0x2bba, ⟨11, 0⟩), (0x2bbd, ⟨7, 0⟩), (0x2bc9, ⟨12, 0⟩), (0x2bca, ⟨7, 0⟩), (0x2bd2, ⟨10, 0⟩),
   (0x2bd3, ⟨11, 0⟩), (0x2bec, ⟨8, 0⟩), (0x2bf0, ⟨11, 0⟩), (0x2bff, ⟨12, 0⟩), (0x2c00, ⟨4, 1⟩),
   (0x2c2f, ⟨14, 0⟩), (0x2c30, ⟨4, 1⟩), (0x2c5f, ⟨14, 0⟩), (0x2c60, ⟨5, 0⟩), (0x2c6d, ⟨5, 1⟩),
   (0x2c70, ⟨5, 2⟩), (0x2c71, ⟨5, 1⟩), (0x2c74, ⟨5, 0⟩), (0x2c78, ⟨5, 1⟩), (0x2c7e, ⟨5, 2⟩),
   (0x2c80, ⟨4, 1⟩), (0x2ceb, ⟨5, 2⟩), (0x2cf2, ⟨6, 1⟩), (0x2cf4, ⟨0, 0⟩), (0x2cf9, ⟨4, 1⟩),
   (0x2d26, ⟨0, 0⟩), (0x2d27, ⟨6, 1⟩), (0x2d28, ⟨0, 0⟩), (0x2d2d, ⟨6, 1⟩), (0x2d2e, ⟨0, 0⟩),
   (0x2d30, ⟨4, 1⟩), (0x2d66, ⟨6, 1⟩), (0x2d68, ⟨0, 0⟩), (0x2d6f, ⟨4, 1⟩), (0x2d70, ⟨6, 0⟩),
   (0x2d71, ⟨0, 0⟩), (0x2d7f, ⟨6, 0⟩), (0x2d80, ⟨4, 1⟩), (0x2d97, ⟨0, 0⟩), (0x2da0, ⟨4, 1⟩),
   (0x2da7, ⟨0, 0⟩), (0x2da8, ⟨4, 1⟩), (0x2daf, ⟨0, 0⟩), (0x2db0, ⟨4, 1⟩), (0x2db7, ⟨0, 0⟩),
   (0x2db8, ⟨4, 1⟩), (0x2dbf, ⟨0, 0⟩), (0x2dc0, ⟨4, 1⟩), (0x2dc7, ⟨0, 0⟩), (0x2dc8, ⟨4, 1⟩),
   (0x2dcf, ⟨0, 0⟩), (0x2dd0, ⟨4, 1⟩), (0x2dd7, ⟨0, 0⟩), (0x2dd8, ⟨4, 1⟩), (0x2ddf, ⟨0, 0⟩),
   (0x2de0, ⟨5, 1⟩), (0x2e00, ⟨4, 1⟩), (0x2e18, ⟨5, 1⟩), (0x2e1c, ⟨4, 1⟩), (0x2e1e, ⟨5, 1⟩),
   (0x2e31, ⟨5, 2⟩), (0x2e32, ⟨6, 1⟩), (0x2e3c, ⟨7, 0⟩), (0x2e43, ⟨9, 0⟩), (0x2e45, ⟨10, 0⟩),
   (0x2e4a, ⟨11, 0⟩), (0x2e4f, ⟨12, 0⟩), (0x2e50, ⟨13, 0⟩), (0x2e53, ⟨14, 0⟩), (0x2e5e, ⟨0, 0⟩),
   (0x2e80, ⟨3, 0⟩), (0x2e9a, ⟨0, 0⟩), (0x2e9b, ⟨3, 0⟩), (0x2ef4, ⟨0, 0⟩), (0x2f00, ⟨3, 0⟩),
   (0x2fd6, ⟨0, 0⟩), (0x2ff0, ⟨3, 0⟩), (0x2ffc, ⟨15, 1⟩), (0x3000, ⟨1, 1⟩), (0x3038, ⟨3, 0⟩),
   (0x303b, ⟨3, 2⟩), (0x303e, ⟨3, 0⟩), (0x303f, ⟨1, 1⟩), (0x3040, ⟨0, 0⟩), (0x3041, ⟨1, 1⟩),
   (0x3095, ⟨3, 2⟩), (0x3097, ⟨0, 0⟩), (0x3099, ⟨1, 1⟩), (0x309f, ⟨3, 2⟩), (0x30a1, ⟨1, 1⟩),
   (0x30ff, ⟨3, 2⟩), (0x3100, ⟨0, 0⟩), (0x3105, ⟨1, 1⟩), (0x312d, ⟨5, 1⟩), (0x312e, ⟨10, 0⟩),
   (0x312f, ⟨11, 0⟩), (0x3130, ⟨0, 0⟩), (0x3131, ⟨1, 1⟩), (0x318f, ⟨0, 0⟩), (0x3190, ⟨1, 1⟩),
   (0x31a0, ⟨3, 0⟩), (0x31b8, ⟨6, 0⟩), (0x31bb, ⟨13, 0⟩), (0x31c0, ⟨4, 1⟩), (0x31d0, ⟨5, 1⟩),
   (0x31e4, ⟨16, 0⟩), (0x31e6, ⟨0, 0⟩), (0x31ef, ⟨15, 1⟩), (0x31f0, ⟨3, 2⟩), (0x3200, ⟨1, 1⟩),
   (0x321d, ⟨4, 0⟩), (0x321f, ⟨0, 0⟩), (0x3220, ⟨1, 1⟩), (0x3244, ⟨5, 2⟩), (0x3250, ⟨4, 0⟩),
   (0x3251, ⟨3, 2⟩), (0x3260, ⟨1, 1⟩), (0x327c, ⟨4, 0⟩), (0x327e, ⟨4, 1⟩), (0x327f, ⟨1, 1⟩),
   (0x32b1, ⟨3, 2⟩), (0x32c0, ⟨1, 1⟩), (0x32cc, ⟨4, 0⟩), (0x32d0, ⟨1, 1⟩), (0x32ff, ⟨12, 1⟩),
   (0x3300, ⟨1, 1⟩), (0x3377, ⟨4, 0⟩), (0x337b, ⟨1, 1⟩), (0x33de, ⟨4, 0⟩), (0x33e0, ⟨1, 1⟩),
   (0x33ff, ⟨4, 0⟩), (0x3400, ⟨3, 0⟩), (0x4db6, ⟨13, 0⟩), (0x4dc0, ⟨4, 0⟩), (0x4e00, ⟨1, 1⟩),
   (0x9fa6, ⟨4, 1⟩), (0x9fbc, ⟨5, 1⟩), (0x9fc4, ⟨5, 2⟩), (0x9fcc, ⟨6, 1⟩), (0x9fcd, ⟨8, 0⟩),
   (0x9fd6, ⟨10, 0⟩), (0x9feb, ⟨11, 0⟩), (0x9ff0, ⟨13, 0⟩), (0x9ffd, ⟨14, 0⟩), (0xa000, ⟨3, 0⟩),
   (0xa48d, ⟨0, 0⟩), (0xa490, ⟨3, 0⟩), (0xa4a2, ⟨3, 2⟩), (0xa4a4, ⟨3, 0⟩), (0xa4b4, ⟨3, 2⟩),
   (0xa4b5, ⟨3, 0⟩), (0xa4c1, ⟨3, 2⟩), (0xa4c2, ⟨3, 0⟩), (0xa4c5, ⟨3, 2⟩), (0xa4c6, ⟨3, 0⟩),
   (0xa4c7, ⟨0, 0⟩), (0xa4d0, ⟨5, 2⟩), (0xa500, ⟨5, 1⟩), (0xa62c, ⟨0, 0⟩), (0xa640, ⟨5, 1⟩),
   (0xa660, ⟨6, 0⟩), (0xa662, ⟨5, 1⟩), (0xa674, ⟨6, 1⟩), (0xa67c, ⟨5, 1⟩), (0xa698, ⟨7, 0⟩),
   (0xa69e, ⟨8, 0⟩), (0xa69f, ⟨6, 1⟩), (0xa6a0, ⟨5, 2⟩), (0xa6f8, ⟨0, 0⟩), (0xa700, ⟨4, 1⟩),
   (0xa717, ⟨5, 0⟩), (0xa71b, ⟨5, 1⟩), (0xa720, ⟨5, 0⟩), (0xa722, ⟨5, 1⟩), (0xa78d, ⟨6, 0⟩),
   (0xa78f, ⟨8, 0⟩), (0xa790, ⟨6, 0⟩), (0xa792, ⟨6, 1⟩), (0xa794, ⟨7, 0⟩), (0xa7a0, ⟨6, 0⟩),
   (0xa7aa, ⟨6, 1⟩), (0xa7ab, ⟨7, 0⟩), (0xa7ae, ⟨9, 0⟩), (0xa7af, ⟨11, 0⟩), (0xa7b0, ⟨7, 0⟩),
   (0xa7b2, ⟨8, 0⟩), (0xa7b8, ⟨11, 0⟩), (0xa7ba, ⟨12, 0⟩), (0xa7c0, ⟨14, 0⟩), (0xa7c2, ⟨12, 0⟩),
   (0xa7c7, ⟨13, 0⟩), (0xa7cb, ⟨16, 0⟩), (0xa7ce, ⟨0, 0⟩), (0xa7d0, ⟨14, 0⟩), (0xa7d2, ⟨0, 0⟩),
   (0xa7d3, ⟨14, 0⟩), (0xa7d4, ⟨0, 0⟩), (0xa7d5, ⟨14, 0⟩), (0xa7da, ⟨16, 0⟩), (0xa7dd, ⟨0, 0⟩),
   (0xa7f2, ⟨14, 0⟩), (0xa7f5, ⟨13, 0⟩), (0xa7f7, ⟨7, 0⟩), (0xa7f8, ⟨6, 1⟩), (0xa7fa, ⟨6, 0⟩),
   (0xa7fb, ⟨5, 1⟩), (0xa800, ⟨4, 1⟩), (0xa82c, ⟨13, 0⟩), (0xa82d, ⟨0, 0⟩), (0xa830, ⟨5, 2⟩),
   (0xa83a, ⟨0, 0⟩), (0xa840, ⟨5, 0⟩), (0xa878, ⟨0, 0⟩), (0xa880, ⟨5, 1⟩), (0xa8c5, ⟨9, 0⟩),
   (0xa8c6, ⟨0, 0⟩), (0xa8ce, ⟨5, 1⟩), (0xa8da, ⟨0, 0⟩), (0xa8e0, ⟨5, 2⟩), (0xa8fc, ⟨8, 0⟩),
   (0xa8fe, ⟨11, 0⟩), (0xa900, ⟨5, 1⟩), (0xa954, ⟨0, 0⟩), (0xa95f, ⟨5, 1⟩), (0xa960, ⟨5, 2⟩),
   (0xa97d, ⟨0, 0⟩), (0xa980, ⟨5, 2⟩), (0xa9ce, ⟨0, 0⟩), (0xa9cf, ⟨5, 2⟩), (0xa9da, ⟨0, 0⟩),
   (0xa9de, ⟨5, 2⟩), (0xa9e0, ⟨7, 0⟩), (0xa9ff, ⟨0, 0⟩), (0xaa00, ⟨5, 1⟩), (0xaa37, ⟨0, 0⟩),
   (0xaa40, ⟨5, 1⟩), (0xaa4e, ⟨0, 0⟩), (0xaa50, ⟨5, 1⟩), (0xaa5a, ⟨0, 0⟩), (0xaa5c, ⟨5, 1⟩),
   (0xaa60, ⟨5, 2⟩), (0xaa7c, ⟨7, 0⟩), (0xaa80, ⟨5, 2⟩), (0xaac3, ⟨0, 0⟩), (0xaadb, ⟨5, 2⟩),
   (0xaae0, ⟨6, 1⟩), (0xaaf7, ⟨0, 0⟩), (0xab01, ⟨6, 0⟩), (0xab07, ⟨0, 0⟩), (0xab09, ⟨6, 0⟩),
   (0xab0f, ⟨0, 0⟩), (0xab11, ⟨6, 0⟩), (0xab17, ⟨0, 0⟩), (0xab20, ⟨6, 0⟩), (0xab27, ⟨0, 0⟩),
   (0xab28, ⟨6, 0⟩), (0xab2f, ⟨0, 0⟩), (0xab30, ⟨7, 0⟩), (0xab60, ⟨8, 0⟩), (0xab64, ⟨7, 0⟩),
   (0xab66, ⟨12, 0⟩), (0xab68, ⟨13, 0⟩), (0xab6c, ⟨0, 0⟩), (0xab70, ⟨8, 0⟩), (0xabc0, ⟨5, 2⟩),
   (0xabee, ⟨0, 0⟩), (0xabf0, ⟨5, 2⟩), (0xabfa, ⟨0, 0⟩), (0xac00, ⟨2, 0⟩), (0xd7a4, ⟨0, 0⟩),
   (0xd7b0, ⟨5, 2⟩), (0xd7c7, ⟨0, 0⟩), (0xd7cb, ⟨5, 2⟩), (0xd7fc, ⟨0, 0⟩), (0xd800, ⟨2, 0⟩),
   (0xe000, ⟨1, 1⟩), (0xfa2e, ⟨6, 1⟩), (0xfa30, ⟨3, 2⟩), (0xfa6b, ⟨5, 2⟩), (0xfa6e, ⟨0, 0⟩),
   (0xfa70, ⟨4, 1⟩), (0xfada, ⟨0, 0⟩), (0xfb00, ⟨1, 1⟩), (0xfb07, ⟨0, 0⟩), (0xfb13, ⟨1, 1⟩),
   (0xfb18, ⟨0, 0⟩), (0xfb1d, ⟨3, 0⟩), (0xfb1e, ⟨1, 1⟩), (0xfb37, ⟨0, 0⟩), (0xfb38, ⟨1, 1⟩),
   (0xfb3d, ⟨0, 0⟩), (0xfb3e, ⟨1, 1⟩), (0xfb3f, ⟨0, 0⟩), (0xfb40, ⟨1, 1⟩), (0xfb42, ⟨0, 0⟩),
   (0xfb43, ⟨1, 1⟩), (0xfb45, ⟨0, 0⟩), (0xfb46, ⟨1, 1⟩), (0xfbb2, ⟨6, 0⟩), (0xfbc2, ⟨14, 0⟩),
   (0xfbc3, ⟨0, 0⟩), (0xfbd3, ⟨1, 1⟩), (0xfd40, ⟨14, 0⟩), (0xfd50, ⟨1, 1⟩), (0xfd90, ⟨0, 0⟩),
   (0xfd92, ⟨1, 1⟩), (0xfdc8, ⟨0, 0⟩), (0xfdcf, ⟨14, 0⟩), (0xfdd0, ⟨3, 1⟩), (0xfdf0, ⟨1, 1⟩),
   (0xfdfc, ⟨3, 2⟩), (0xfdfd, ⟨4, 0⟩), (0xfdfe, ⟨14, 0⟩), (0xfe00, ⟨3, 2⟩), (0xfe10, ⟨4, 1⟩),
   (0xfe1a, ⟨0, 0⟩), (0xfe20, ⟨1, 1⟩), (0xfe24, ⟨5, 1⟩), (0xfe27, ⟨7, 0⟩), (0xfe2e, ⟨8, 0⟩),
   (0xfe30, ⟨1, 1⟩), (0xfe45, ⟨3, 2⟩), (0xfe47, ⟨4, 0⟩), (0xfe49, ⟨1, 1⟩), (0xfe53, ⟨0, 0⟩),
   (0xfe54, ⟨1, 1⟩), (0xfe67, ⟨0, 0⟩), (0xfe68, ⟨1, 1⟩), (0xfe6c, ⟨0, 0⟩), (0xfe70, ⟨1, 1⟩),
   (0xfe73, ⟨3, 2⟩), (0xfe74, ⟨1, 1⟩), (0xfe75, ⟨0, 0⟩), (0xfe76, ⟨1, 1⟩), (0xfefd, ⟨0, 0⟩),
   (0xfeff, ⟨1, 1⟩), (0xff00, ⟨0, 0⟩), (0xff01, ⟨1, 1⟩), (0xff5f, ⟨3, 2⟩), (0xff61, ⟨1, 1⟩),
   (0xffbf, ⟨0, 0⟩), (0xffc2, ⟨1, 1⟩), (0xffc8, ⟨0, 0⟩), (0xffca, ⟨1, 1⟩), (0xffd0, ⟨0, 0⟩),
   (0xffd2, ⟨1, 1⟩), (0xffd8, ⟨0, 0⟩), (0xffda, ⟨1, 1⟩), (0xffdd, ⟨0, 0⟩), (0xffe0, ⟨1, 1⟩),
   (0xffe7, ⟨0, 0⟩), (0xffe8, ⟨1, 1⟩), (0xffef, ⟨0, 0⟩), (0xfff9, ⟨3, 0⟩), (0xfffc, ⟨2, 1⟩),
   (0xfffd, ⟨1, 1⟩), (0x10000, ⟨4, 0⟩), (0x1000c, ⟨0, 0⟩), (0x1000d, ⟨4, 0⟩), (0x10027, ⟨0, 0⟩),
   (0x10028, ⟨4, 0⟩), (0x1003b, ⟨0, 0⟩), (0x1003c, ⟨4, 0⟩), (0x1003e, ⟨0, 0⟩), (0x1003f, ⟨4, 0⟩),
   (0x1004e, ⟨0, 0⟩), (0x10050, ⟨4, 0⟩), (0x1005e, ⟨0, 0⟩), (0x10080, ⟨4, 0⟩), (0x100fb, ⟨0, 0⟩),
   (0x10100, ⟨4, 0⟩), (0x10103, ⟨0, 0⟩), (0x10107, ⟨4, 0⟩), (0x10134, ⟨0, 0⟩), (0x10137, ⟨4, 0⟩),
   (0x10140, ⟨4, 1⟩), (0x1018b, ⟨7, 0⟩), (0x1018d, ⟨9, 0⟩), (0x1018f, ⟨0, 0⟩), (0x10190, ⟨5, 1⟩),
   (0x1019c, ⟨13, 0⟩), (0x1019d, ⟨0, 0⟩), (0x101a0, ⟨7, 0⟩), (0x101a1, ⟨0, 0⟩), (0x101d0, ⟨5, 1⟩),
   (0x101fe, ⟨0, 0⟩), (0x10280, ⟨5, 1⟩), (0x1029d, ⟨0, 0⟩), (0x102a0, ⟨5, 1⟩), (0x102d1, ⟨0, 0⟩),
   (0x102e0, ⟨7, 0⟩), (0x102fc, ⟨0, 0⟩), (0x10300, ⟨3, 1⟩), (0x1031f, ⟨7, 0⟩), (0x10320, ⟨3, 1⟩),
   (0x10324, ⟨0, 0⟩), (0x1032d, ⟨10, 0⟩), (0x10330, ⟨3, 1⟩), (0x1034b, ⟨0, 0⟩), (0x10350, ⟨7, 0⟩),
   (0x1037b, ⟨0, 0⟩), (0x10380, ⟨4, 0⟩), (0x1039e, ⟨0, 0⟩), (0x1039f, ⟨4, 0⟩), (0x103a0, ⟨4, 1⟩),
   (0x103c4, ⟨0, 0⟩), (0x103c8, ⟨4, 1⟩), (0x103d6, ⟨0, 0⟩), (0x10400, ⟨3, 1⟩), (0x10426, ⟨4, 0⟩),
   (0x10428, ⟨3, 1⟩), (0x1044e, ⟨4, 0⟩), (0x1049e, ⟨0, 0⟩), (0x104a0, ⟨4, 0⟩), (0x104aa, ⟨0, 0⟩),
   (0x104b0, ⟨9, 0⟩), (0x104d4, ⟨0, 0⟩), (0x104d8, ⟨9, 0⟩), (0x104fc, ⟨0, 0⟩), (0x10500, ⟨7, 0⟩),
   (0x10528, ⟨0, 0⟩), (0x10530, ⟨7, 0⟩), (0x10564, ⟨0, 0⟩), (0x1056f, ⟨7, 0⟩), (0x10570, ⟨14, 0⟩),
   (0x1057b, ⟨0, 0⟩), (0x1057c, ⟨14, 0⟩), (0x1058b, ⟨0, 0⟩), (0x1058c, ⟨14, 0⟩), (0x10593, ⟨0, 0⟩),
   (0x10594, ⟨14, 0⟩), (0x10596, ⟨0, 0⟩), (0x10597, ⟨14, 0⟩), (0x105a2, ⟨0, 0⟩), (0x105a3, ⟨14, 0⟩),
   (0x105b2, ⟨0, 0⟩), (0x105b3, ⟨14, 0⟩), (0x105ba, ⟨0, 0⟩), (0x105bb, ⟨14, 0⟩), (0x105bd, ⟨0, 0⟩),
   (0x105c0, ⟨16, 0⟩), (0x105f4, ⟨0, 0⟩), (0x10600, ⟨7, 0⟩), (0x10737, ⟨0, 0⟩), (0x10740, ⟨7, 0⟩),
   (0x10756, ⟨0, 0⟩), (0x10760, ⟨7, 0⟩), (0x10768, ⟨0, 0⟩), (0x10780, ⟨14, 0⟩), (0x10786, ⟨0, 0⟩),
   (0x10787, ⟨14, 0⟩), (0x107b1, ⟨0, 0⟩), (0x107b2, ⟨14, 0⟩), (0x107bb, ⟨0, 0⟩), (0x10800, ⟨4, 0⟩),
   (0x10806, ⟨0, 0⟩), (0x10808, ⟨4, 0⟩), (0x10809, ⟨0, 0⟩), (0x1080a, ⟨4, 0⟩), (0x10836, ⟨0, 0⟩),
   (0x10837, ⟨4, 0⟩), (0x10839, ⟨0, 0⟩), (0x1083c, ⟨4, 0⟩), (0x1083d, ⟨0, 0⟩), (0x1083f, ⟨4, 0⟩),
   (0x10840, ⟨5, 2⟩), (0x10856, ⟨0, 0⟩), (0x10857, ⟨5, 2⟩), (0x10860, ⟨7, 0⟩), (0x1089f, ⟨0, 0⟩),
   (0x108a7, ⟨7, 0⟩), (0x108b0, ⟨0, 0⟩), (0x108e0, ⟨8, 0⟩), (0x108f3, ⟨0, 0⟩), (0x108f4, ⟨8, 0⟩),
   (0x108f6, ⟨0, 0⟩), (0x108fb, ⟨8, 0⟩), (0x10900, ⟨5, 0⟩), (0x1091a, ⟨5, 2⟩), (0x1091c, ⟨0, 0⟩),
   (0x1091f, ⟨5, 0⟩), (0x10920, ⟨5, 1⟩), (0x1093a, ⟨0, 0⟩), (0x1093f, ⟨5, 1⟩), (0x10940, ⟨0, 0⟩),
   (0x10980, ⟨6, 1⟩), (0x109b8, ⟨0, 0⟩), (0x109bc, ⟨8, 0⟩), (0x109be, ⟨6, 1⟩), (0x109c0, ⟨8, 0⟩),
   (0x109d0, ⟨0, 0⟩), (0x109d2, ⟨8, 0⟩), (0x10a00, ⟨4, 1⟩), (0x10a04, ⟨0, 0⟩), (0x10a05, ⟨4, 1⟩),
   (0x10a07, ⟨0, 0⟩), (0x10a0c, ⟨4, 1⟩), (0x10a14, ⟨0, 0⟩), (0x10a15, ⟨4, 1⟩), (0x10a18, ⟨0, 0⟩),
   (0x10a19, ⟨4, 1⟩), (0x10a34, ⟨11, 0⟩), (0x10a36, ⟨0, 0⟩), (0x10a38, ⟨4, 1⟩), (0x10a3b, ⟨0, 0⟩),
   (0x10a3f, ⟨4, 1⟩), (0x10a48, ⟨11, 0⟩), (0x10a49, ⟨0, 0⟩), (0x10a50, ⟨4, 1⟩), (0x10a59, ⟨0, 0⟩),
   (0x10a60, ⟨5, 2⟩), (0x10a80, ⟨7, 0⟩), (0x10aa0, ⟨0, 0⟩), (0x10ac0, ⟨7, 0⟩), (0x10ae7, ⟨0, 0⟩),
   (0x10aeb, ⟨7, 0⟩), (0x10af7, ⟨0, 0⟩), (0x10b00, ⟨5, 2⟩), (0x10b36, ⟨0, 0⟩), (0x10b39, ⟨5, 2⟩),
   (0x10b56, ⟨0, 0⟩), (0x10b58, ⟨5, 2⟩), (0x10b73, ⟨0, 0⟩), (0x10b78, ⟨5, 2⟩), (0x10b80, ⟨7, 0⟩),
   (0x10b92, ⟨0, 0⟩), (0x10b99, ⟨7, 0⟩), (0x10b9d, ⟨0, 0⟩), (0x10ba9, ⟨7, 0⟩), (0x10bb0, ⟨0, 0⟩),
   (0x10c00, ⟨5, 2⟩), (0x10c49, ⟨0, 0⟩), (0x10c80, ⟨8, 0⟩), (0x10cb3, ⟨0, 0⟩), (0x10cc0, ⟨8, 0⟩),
   (0x10cf3, ⟨0, 0⟩), (0x10cfa, ⟨8, 0⟩), (0x10d00, ⟨11, 0⟩), (0x10d28, ⟨0, 0⟩), (0x10d30, ⟨11, 0⟩),
   (0x10d3a, ⟨0, 0⟩), (0x10d40, ⟨16, 0⟩), (0x10d66, ⟨0, 0⟩), (0x10d69, ⟨16, 0⟩), (0x10d86, ⟨0, 0⟩),
   (0x10d8e, ⟨16, 0⟩), (0x10d90, ⟨0, 0⟩), (0x10e60, ⟨5, 2⟩), (0x10e7f, ⟨0, 0⟩), (0x10e80, ⟨13, 0⟩),
   (0x10eaa, ⟨0, 0⟩), (0x10eab, ⟨13, 0⟩), (0x10eae, ⟨0, 0⟩), (0x10eb0, ⟨13, 0⟩), (0x10eb2, ⟨0, 0⟩),
   (0x10ec2, ⟨16, 0⟩), (0x10ec5, ⟨0, 0⟩), (0x10efc, ⟨16, 0⟩), (0x10efd, ⟨15, 0⟩),
   (0x10f00, ⟨11, 0⟩), (0x10f28, ⟨0, 0⟩), (0x10f30, ⟨11, 0⟩), (0x10f5a, ⟨0, 0⟩), (0x10f70, ⟨14, 0⟩),
   (0x10f8a, ⟨0, 0⟩), (0x10fb0, ⟨13, 0⟩), (0x10fcc, ⟨0, 0⟩), (0x10fe0, ⟨12, 0⟩), (0x10ff7, ⟨0, 0⟩),
   (0x11000, ⟨6, 0⟩), (0x1104e, ⟨0, 0⟩), (0x11052, ⟨6, 0⟩), (0x11070, ⟨14, 0⟩), (0x11076, ⟨0, 0⟩),
   (0x1107f, ⟨7, 0⟩), (0x11080, ⟨5, 2⟩), (0x110c2, ⟨14, 0⟩), (0x110c3, ⟨0, 0⟩), (0x110cd, ⟨11, 0⟩),
   (0x110ce, ⟨0, 0⟩), (0x110d0, ⟨6, 1⟩), (0x110e9, ⟨0, 0⟩), (0x110f0, ⟨6, 1⟩), (0x110fa, ⟨0, 0⟩),
   (0x11100, ⟨6, 1⟩), (0x11135, ⟨0, 0⟩), (0x11136, ⟨6, 1⟩), (0x11144, ⟨11, 0⟩), (0x11147, ⟨13, 0⟩),
   (0x11148, ⟨0, 0⟩), (0x11150, ⟨7, 0⟩), (0x11177, ⟨0, 0⟩), (0x11180, ⟨6, 1⟩), (0x111c9, ⟨8, 0⟩),
   (0x111cd, ⟨7, 0⟩), (0x111ce, ⟨13, 0⟩), (0x111d0, ⟨6, 1⟩), (0x111da, ⟨7, 0⟩), (0x111db, ⟨8, 0⟩),
   (0x111e0, ⟨0, 0⟩), (0x111e1, ⟨7, 0⟩), (0x111f5, ⟨0, 0⟩), (0x11200, ⟨7, 0⟩), (0x11212, ⟨0, 0⟩),
   (0x11213, ⟨7, 0⟩), (0x1123e, ⟨9, 0⟩), (0x1123f, ⟨15, 0⟩), (0x11242, ⟨0, 0⟩), (0x11280, ⟨8, 0⟩),
   (0x11287, ⟨0, 0⟩), (0x11288, ⟨8, 0⟩), (0x11289, ⟨0, 0⟩), (0x1128a, ⟨8, 0⟩), (0x1128e, ⟨0, 0⟩),
   (0x1128f, ⟨8, 0⟩), (0x1129e, ⟨0, 0⟩), (0x1129f, ⟨8, 0⟩), (0x112aa, ⟨0, 0⟩), (0x112b0, ⟨7, 0⟩),
   (0x112eb, ⟨0, 0⟩), (0x112f0, ⟨7, 0⟩), (0x112fa, ⟨0, 0⟩), (0x11300, ⟨8, 0⟩), (0x11301, ⟨7, 0⟩),
   (0x11304, ⟨0, 0⟩), (0x11305, ⟨7, 0⟩), (0x1130d, ⟨0, 0⟩), (0x1130f, ⟨7, 0⟩), (0x11311, ⟨0, 0⟩),
   (0x11313, ⟨7, 0⟩), (0x11329, ⟨0, 0⟩), (0x1132a, ⟨7, 0⟩), (0x11331, ⟨0, 0⟩), (0x11332, ⟨7, 0⟩),
   (0x11334, ⟨0, 0⟩), (0x11335, ⟨7, 0⟩), (0x1133a, ⟨0, 0⟩), (0x1133b, ⟨11, 0⟩), (0x1133c, ⟨7, 0⟩),
   (0x11345, ⟨0, 0⟩), (0x11347, ⟨7, 0⟩), (0x11349, ⟨0, 0⟩), (0x1134b, ⟨7, 0⟩), (0x1134e, ⟨0, 0⟩),
   (0x11350, ⟨8, 0⟩), (0x11351, ⟨0, 0⟩), (0x11357, ⟨7, 0⟩), (0x11358, ⟨0, 0⟩), (0x1135d, ⟨7, 0⟩),
   (0x11364, ⟨0, 0⟩), (0x11366, ⟨7, 0⟩), (0x1136d, ⟨0, 0⟩), (0x11370, ⟨7, 0⟩), (0x11375, ⟨0, 0⟩),
   (0x11380, ⟨16, 0⟩), (0x1138a, ⟨0, 0⟩), (0x1138b, ⟨16, 0⟩), (0x1138c, ⟨0, 0⟩), (0x1138e, ⟨16, 0⟩),
   (0x1138f, ⟨0, 0⟩), (0x11390, ⟨16, 0⟩), (0x113b6, ⟨0, 0⟩), (0x113b7, ⟨16, 0⟩), (0x113c1, ⟨0, 0⟩),
   (0x113c2, ⟨16, 0⟩), (0x113c3, ⟨0, 0⟩), (0x113c5, ⟨16, 0⟩), (0x113c6, ⟨0, 0⟩), (0x113c7, ⟨16, 0⟩),
   (0x113cb, ⟨0, 0⟩), (0x113cc, ⟨16, 0⟩), (0x113d6, ⟨0, 0⟩), (0x113d7, ⟨16, 0⟩), (0x113d9, ⟨0, 0⟩),
   (0x113e1, ⟨16, 0⟩), (0x113e3, ⟨0, 0⟩), (0x11400, ⟨9, 0⟩), (0x1145a, ⟨13, 0⟩), (0x1145b, ⟨9, 0⟩),
   (0x1145c, ⟨0, 0⟩), (0x1145d, ⟨9, 0⟩), (0x1145e, ⟨11, 0⟩), (0x1145f, ⟨12, 0⟩), (0x11460, ⟨13, 0⟩),
   (0x11462, ⟨0, 0⟩), (0x11480, ⟨7, 0⟩), (0x114c8, ⟨0, 0⟩), (0x114d0, ⟨7, 0⟩), (0x114da, ⟨0, 0⟩),
   (0x11580, ⟨7, 0⟩), (0x115b6, ⟨0, 0⟩), (0x115b8, ⟨7, 0⟩), (0x115ca, ⟨8, 0⟩), (0x115de, ⟨0, 0⟩),
   (0x11600, ⟨7, 0⟩), (0x11645, ⟨0, 0⟩), (0x11650, ⟨7, 0⟩), (0x1165a, ⟨0, 0⟩), (0x11660, ⟨9, 0⟩),
   (0x1166d, ⟨0, 0⟩), (0x11680, ⟨6, 1⟩), (0x116b8, ⟨12, 0⟩), (0x116b9, ⟨14, 0⟩), (0x116ba, ⟨0, 0⟩),
   (0x116c0, ⟨6, 1⟩), (0x116ca, ⟨0, 0⟩), (0x116d0, ⟨16, 0⟩), (0x116e4, ⟨0, 0⟩), (0x11700, ⟨8, 0⟩),
   (0x1171a, ⟨11, 0⟩), (0x1171b, ⟨0, 0⟩), (0x1171d, ⟨8, 0⟩), (0x1172c, ⟨0, 0⟩), (0x11730, ⟨8, 0⟩),
   (0x11740, ⟨14, 0⟩), (0x11747, ⟨0, 0⟩), (0x11800, ⟨11, 0⟩), (0x1183c, ⟨0, 0⟩), (0x118a0, ⟨7, 0⟩),
   (0x118f3, ⟨0, 0⟩), (0x118ff, ⟨7, 0⟩), (0x11900, ⟨13, 0⟩), (0x11907, ⟨0, 0⟩), (0x11909, ⟨13, 0⟩),
   (0x1190a, ⟨0, 0⟩), (0x1190c, ⟨13, 0⟩), (0x11914, ⟨0, 0⟩), (0x11915, ⟨13, 0⟩), (0x11917, ⟨0, 0⟩),
   (0x11918, ⟨13, 0⟩), (0x11936, ⟨0, 0⟩), (0x11937, ⟨13, 0⟩), (0x11939, ⟨0, 0⟩), (0x1193b, ⟨13, 0⟩),
   (0x11947, ⟨0, 0⟩), (0x11950, ⟨13, 0⟩), (0x1195a, ⟨0, 0⟩), (0x119a0, ⟨12, 0⟩), (0x119a8, ⟨0, 0⟩),
   (0x119aa, ⟨12, 0⟩), (0x119d8, ⟨0, 0⟩), (0x119da, ⟨12, 0⟩), (0x119e5, ⟨0, 0⟩), (0x11a00, ⟨10, 0⟩),
   (0x11a48, ⟨0, 0⟩), (0x11a50, ⟨10, 0⟩), (0x11a84, ⟨12, 0⟩), (0x11a86, ⟨10, 0⟩),
   (0x11a9d, ⟨11, 0⟩), (0x11a9e, ⟨10, 0⟩), (0x11aa3, ⟨0, 0⟩), (0x11ab0, ⟨14, 0⟩), (0x11ac0, ⟨7, 0⟩),
   (0x11af9, ⟨0, 0⟩), (0x11b00, ⟨15, 0⟩), (0x11b0a, ⟨0, 0⟩), (0x11bc0, ⟨16, 0⟩), (0x11be2, ⟨0, 0⟩),
   (0x11bf0, ⟨16, 0⟩), (0x11bfa, ⟨0, 0⟩), (0x11c00, ⟨9, 0⟩), (0x11c09, ⟨0, 0⟩), (0x11c0a, ⟨9, 0⟩),
   (0x11c37, ⟨0, 0⟩), (0x11c38, ⟨9, 0⟩), (0x11c46, ⟨0, 0⟩), (0x11c50, ⟨9, 0⟩), (0x11c6d, ⟨0, 0⟩),
   (0x11c70, ⟨9, 0⟩), (0x11c90, ⟨0, 0⟩), (0x11c92, ⟨9, 0⟩), (0x11ca8, ⟨0, 0⟩), (0x11ca9, ⟨9, 0⟩),
   (0x11cb7, ⟨0, 0⟩), (0x11d00, ⟨10, 0⟩), (0x11d07, ⟨0, 0⟩), (0x11d08, ⟨10, 0⟩), (0x11d0a, ⟨0, 0⟩),
   (0x11d0b, ⟨10, 0⟩), (0x11d37, ⟨0, 0⟩), (0x11d3a, ⟨10, 0⟩), (0x11d3b, ⟨0, 0⟩), (0x11d3c, ⟨10, 0⟩),
   (0x11d3e, ⟨0, 0⟩), (0x11d3f, ⟨10, 0⟩), (0x11d48, ⟨0, 0⟩), (0x11d50, ⟨10, 0⟩), (0x11d5a, ⟨0, 0⟩),
   (0x11d60, ⟨11, 0⟩), (0x11d66, ⟨0, 0⟩), (0x11d67, ⟨11, 0⟩), (0x11d69, ⟨0, 0⟩), (0x11d6a, ⟨11, 0⟩),
   (0x11d8f, ⟨0, 0⟩), (0x11d90, ⟨11, 0⟩), (0x11d92, ⟨0, 0⟩), (0x11d93, ⟨11, 0⟩), (0x11d99, ⟨0, 0⟩),
   (0x11da0, ⟨11, 0⟩), (0x11daa, ⟨0, 0⟩), (0x11ee0, ⟨11, 0⟩), (0x11ef9, ⟨0, 0⟩), (0x11f00, ⟨15, 0⟩),
   (0x11f11, ⟨0, 0⟩), (0x11f12, ⟨15, 0⟩), (0x11f3b, ⟨0, 0⟩), (0x11f3e, ⟨15, 0⟩), (0x11f5a, ⟨16, 0⟩),
   (0x11f5b, ⟨0, 0⟩), (0x11fb0, ⟨13, 0⟩), (0x11fb1, ⟨0, 0⟩), (0x11fc0, ⟨12, 0⟩), (0x11ff2, ⟨0, 0⟩),
   (0x11fff, ⟨12, 0⟩), (0x12000, ⟨5, 0⟩), (0x1236f, ⟨7, 0⟩), (0x12399, ⟨8, 0⟩), (0x1239a, ⟨0, 0⟩),
   (0x12400, ⟨5, 0⟩), (0x12463, ⟨7, 0⟩), (0x1246f, ⟨0, 0⟩), (0x12470, ⟨5, 0⟩), (0x12474, ⟨7, 0⟩),
   (0x12475, ⟨0, 0⟩), (0x12480, ⟨8, 0⟩), (0x12544, ⟨0, 0⟩), (0x12f90, ⟨14, 0⟩), (0x12ff3, ⟨0, 0⟩),
   (0x13000, ⟨5, 2⟩), (0x1342f, ⟨15, 0⟩), (0x13430, ⟨12, 0⟩), (0x13439, ⟨15, 0⟩), (0x13456, ⟨0, 0⟩),
   (0x13460, ⟨16, 0⟩), (0x143fb, ⟨0, 0⟩), (0x14400, ⟨8, 0⟩), (0x14647, ⟨0, 0⟩), (0x16100, ⟨16, 0⟩),
   (0x1613a, ⟨0, 0⟩), (0x16800, ⟨6, 0⟩), (0x16a39, ⟨0, 0⟩), (0x16a40, ⟨7, 0⟩), (0x16a5f, ⟨0, 0⟩),
   (0x16a60, ⟨7, 0⟩), (0x16a6a, ⟨0, 0⟩), (0x16a6e, ⟨7, 0⟩), (0x16a70, ⟨14, 0⟩), (0x16abf, ⟨0, 0⟩),
   (0x16ac0, ⟨14, 0⟩), (0x16aca, ⟨0, 0⟩), (0x16ad0, ⟨7, 0⟩), (0x16aee, ⟨0, 0⟩), (0x16af0, ⟨7, 0⟩),
   (0x16af6, ⟨0, 0⟩), (0x16b00, ⟨7, 0⟩), (0x16b46, ⟨0, 0⟩), (0x16b50, ⟨7, 0⟩), (0x16b5a, ⟨0, 0⟩),
   (0x16b5b, ⟨7, 0⟩), (0x16b62, ⟨0, 0⟩), (0x16b63, ⟨7, 0⟩), (0x16b78, ⟨0, 0⟩), (0x16b7d, ⟨7, 0⟩),
   (0x16b90, ⟨0, 0⟩), (0x16d40, ⟨16, 0⟩), (0x16d7a, ⟨0, 0⟩), (0x16e40, ⟨11, 0⟩), (0x16e9b, ⟨0, 0⟩),
   (0x16f00, ⟨6, 1⟩), (0x16f45, ⟨12, 0⟩), (0x16f4b, ⟨0, 0⟩), (0x16f4f, ⟨12, 0⟩), (0x16f50, ⟨6, 1⟩),
   (0x16f7f, ⟨12, 0⟩), (0x16f88, ⟨0, 0⟩), (0x16f8f, ⟨6, 1⟩), (0x16fa0, ⟨0, 0⟩), (0x16fe0, ⟨9, 0⟩),
   (0x16fe1, ⟨10, 0⟩), (0x16fe2, ⟨12, 0⟩), (0x16fe4, ⟨13, 0⟩), (0x16fe5, ⟨0, 0⟩),
   (0x16ff0, ⟨13, 0⟩), (0x16ff2, ⟨0, 0⟩), (0x17000, ⟨9, 0⟩), (0x187ed, ⟨11, 0⟩), (0x187f2, ⟨12, 0⟩),
   (0x187f8, ⟨0, 0⟩), (0x18800, ⟨9, 0⟩), (0x18af3, ⟨13, 0⟩), (0x18cd6, ⟨0, 0⟩), (0x18cff, ⟨16, 0⟩),
   (0x18d00, ⟨13, 0⟩), (0x18d09, ⟨0, 0⟩), (0x1aff0, ⟨14, 0⟩), (0x1aff4, ⟨0, 0⟩), (0x1aff5, ⟨14, 0⟩),
   (0x1affc, ⟨0, 0⟩), (0x1affd, ⟨14, 0⟩), (0x1afff, ⟨0, 0⟩), (0x1b000, ⟨6, 0⟩), (0x1b002, ⟨10, 0⟩),
   (0x1b11f, ⟨14, 0⟩), (0x1b123, ⟨0, 0⟩), (0x1b132, ⟨15, 0⟩), (0x1b133, ⟨0, 0⟩), (0x1b150, ⟨12, 0⟩),
   (0x1b153, ⟨0, 0⟩), (0x1b155, ⟨15, 0⟩), (0x1b156, ⟨0, 0⟩), (0x1b164, ⟨12, 0⟩), (0x1b168, ⟨0, 0⟩),
   (0x1b170, ⟨10, 0⟩), (0x1b2fc, ⟨0, 0⟩), (0x1bc00, ⟨7, 0⟩), (0x1bc6b, ⟨0, 0⟩), (0x1bc70, ⟨7, 0⟩),
   (0x1bc7d, ⟨0, 0⟩), (0x1bc80, ⟨7, 0⟩), (0x1bc89, ⟨0, 0⟩), (0x1bc90, ⟨7, 0⟩), (0x1bc9a, ⟨0, 0⟩),
   (0x1bc9c, ⟨7, 0⟩), (0x1bca4, ⟨0, 0⟩), (0x1cc00, ⟨16, 0⟩), (0x1ccfa, ⟨0, 0⟩), (0x1cd00, ⟨16, 0⟩),
   (0x1ceb4, ⟨0, 0⟩), (0x1cf00, ⟨14, 0⟩), (0x1cf2e, ⟨0, 0⟩), (0x1cf30, ⟨14, 0⟩), (0x1cf47, ⟨0, 0⟩),
   (0x1cf50, ⟨14, 0⟩), (0x1cfc4, ⟨0, 0⟩), (0x1d000, ⟨3, 1⟩), (0x1d0f6, ⟨0, 0⟩), (0x1d100, ⟨3, 1⟩),
   (0x1d127, ⟨0, 0⟩), (0x1d129, ⟨5, 1⟩), (0x1d12a, ⟨3, 1⟩), (0x1d1de, ⟨8, 0⟩), (0x1d1e9, ⟨14, 0⟩),
   (0x1d1eb, ⟨0, 0⟩), (0x1d200, ⟨4, 1⟩), (0x1d246, ⟨0, 0⟩), (0x1d2c0, ⟨15, 0⟩), (0x1d2d4, ⟨0, 0⟩),
   (0x1d2e0, ⟨11, 0⟩), (0x1d2f4, ⟨0, 0⟩), (0x1d300, ⟨4, 0⟩), (0x1d357, ⟨0, 0⟩), (0x1d360, ⟨5, 0⟩),
   (0x1d372, ⟨11, 0⟩), (0x1d379, ⟨0, 0⟩), (0x1d400, ⟨3, 1⟩), (0x1d455, ⟨0, 0⟩), (0x1d456, ⟨3, 1⟩),
   (0x1d49d, ⟨0, 0⟩), (0x1d49e, ⟨3, 1⟩), (0x1d4a0, ⟨0, 0⟩), (0x1d4a2, ⟨3, 1⟩), (0x1d4a3, ⟨0, 0⟩),
   (0x1d4a5, ⟨3, 1⟩), (0x1d4a7, ⟨0, 0⟩), (0x1d4a9, ⟨3, 1⟩), (0x1d4ad, ⟨0, 0⟩), (0x1d4ae, ⟨3, 1⟩),
   (0x1d4ba, ⟨0, 0⟩), (0x1d4bb, ⟨3, 1⟩), (0x1d4bc, ⟨0, 0⟩), (0x1d4bd, ⟨3, 1⟩), (0x1d4c1, ⟨4, 0⟩),
   (0x1d4c2, ⟨3, 1⟩), (0x1d4c4, ⟨0, 0⟩), (0x1d4c5, ⟨3, 1⟩), (0x1d506, ⟨0, 0⟩), (0x1d507, ⟨3, 1⟩),
   (0x1d50b, ⟨0, 0⟩), (0x1d50d, ⟨3, 1⟩), (0x1d515, ⟨0, 0⟩), (0x1d516, ⟨3, 1⟩), (0x1d51d, ⟨0, 0⟩),
   (0x1d51e, ⟨3, 1⟩), (0x1d53a, ⟨0, 0⟩), (0x1d53b, ⟨3, 1⟩), (0x1d53f, ⟨0, 0⟩), (0x1d540, ⟨3, 1⟩),
   (0x1d545, ⟨0, 0⟩), (0x1d546, ⟨3, 1⟩), (0x1d547, ⟨0, 0⟩), (0x1d54a, ⟨3, 1⟩), (0x1d551, ⟨0, 0⟩),
   (0x1d552, ⟨3, 1⟩), (0x1d6a4, ⟨4, 1⟩), (0x1d6a6, ⟨0, 0⟩), (0x1d6a8, ⟨3, 1⟩), (0x1d7ca, ⟨5, 0⟩),
   (0x1d7cc, ⟨0, 0⟩), (0x1d7ce, ⟨3, 1⟩), (0x1d800, ⟨8, 0⟩), (0x1da8c, ⟨0, 0⟩), (0x1da9b, ⟨8, 0⟩),
   (0x1daa0, ⟨0, 0⟩), (0x1daa1, ⟨8, 0⟩), (0x1dab0, ⟨0, 0⟩), (0x1df00, ⟨14, 0⟩), (0x1df1f, ⟨0, 0⟩),
   (0x1df25, ⟨15, 0⟩), (0x1df2b, ⟨0, 0⟩), (0x1e000, ⟨9, 0⟩), (0x1e007, ⟨0, 0⟩), (0x1e008, ⟨9, 0⟩),
   (0x1e019, ⟨0, 0⟩), (0x1e01b, ⟨9, 0⟩), (0x1e022, ⟨0, 0⟩), (0x1e023, ⟨9, 0⟩), (0x1e025, ⟨0, 0⟩),
   (0x1e026, ⟨9, 0⟩), (0x1e02b, ⟨0, 0⟩), (0x1e030, ⟨15, 0⟩), (0x1e06e, ⟨0, 0⟩), (0x1e08f, ⟨15, 0⟩),
   (0x1e090, ⟨0, 0⟩), (0x1e100, ⟨12, 0⟩), (0x1e12d, ⟨0, 0⟩), (0x1e130, ⟨12, 0⟩), (0x1e13e, ⟨0, 0⟩),
   (0x1e140, ⟨12, 0⟩), (0x1e14a, ⟨0, 0⟩), (0x1e14e, ⟨12, 0⟩), (0x1e150, ⟨0, 0⟩), (0x1e290, ⟨14, 0⟩),
   (0x1e2af, ⟨0, 0⟩), (0x1e2c0, ⟨12, 0⟩), (0x1e2fa, ⟨0, 0⟩), (0x1e2ff, ⟨12, 0⟩), (0x1e300, ⟨0, 0⟩),
   (0x1e4d0, ⟨15, 0⟩), (0x1e4fa, ⟨0, 0⟩), (0x1e5d0, ⟨16, 0⟩), (0x1e5fb, ⟨0, 0⟩), (0x1e5ff, ⟨16, 0⟩),
   (0x1e600, ⟨0, 0⟩), (0x1e7e0, ⟨14, 0⟩), (0x1e7e7, ⟨0, 0⟩), (0x1e7e8, ⟨14, 0⟩), (0x1e7ec, ⟨0, 0⟩),
   (0x1e7ed, ⟨14, 0⟩), (0x1e7ef, ⟨0, 0⟩), (0x1e7f0, ⟨14, 0⟩), (0x1e7ff, ⟨0, 0⟩), (0x1e800, ⟨7, 0⟩),
   (0x1e8c5, ⟨0, 0⟩), (0x1e8c7, ⟨7, 0⟩), (0x1e8d7, ⟨0, 0⟩), (0x1e900, ⟨9, 0⟩), (0x1e94b, ⟨12, 0⟩),
   (0x1e94c, ⟨0, 0⟩), (0x1e950, ⟨9, 0⟩), (0x1e95a, ⟨0, 0⟩), (0x1e95e, ⟨9, 0⟩), (0x1e960, ⟨0, 0⟩),
   (0x1ec71, ⟨11, 0⟩), (0x1ecb5, ⟨0, 0⟩), (0x1ed01, ⟨12, 0⟩), (0x1ed3e, ⟨0, 0⟩), (0x1ee00, ⟨6, 1⟩),
   (0x1ee04, ⟨0, 0⟩), (0x1ee05, ⟨6, 1⟩), (0x1ee20, ⟨0, 0⟩), (0x1ee21, ⟨6, 1⟩), (0x1ee23, ⟨0, 0⟩),
   (0x1ee24, ⟨6, 1⟩), (0x1ee25, ⟨0, 0⟩), (0x1ee27, ⟨6, 1⟩), (0x1ee28, ⟨0, 0⟩), (0x1ee29, ⟨6, 1⟩),
   (0x1ee33, ⟨0, 0⟩), (0x1ee34, ⟨6, 1⟩), (0x1ee38, ⟨0, 0⟩), (0x1ee39, ⟨6, 1⟩), (0x1ee3a, ⟨0, 0⟩),
   (0x1ee3b, ⟨6, 1⟩), (0x1ee3c, ⟨0, 0⟩), (0x1ee42, ⟨6, 1⟩), (0x1ee43, ⟨0, 0⟩), (0x1ee47, ⟨6, 1⟩),
   (0x1ee48, ⟨0, 0⟩), (0x1ee49, ⟨6, 1⟩), (0x1ee4a, ⟨0, 0⟩), (0x1ee4b, ⟨6, 1⟩), (0x1ee4c, ⟨0, 0⟩),
   (0x1ee4d, ⟨6, 1⟩), (0x1ee50, ⟨0, 0⟩), (0x1ee51, ⟨6, 1⟩), (0x1ee53, ⟨0, 0⟩), (0x1ee54, ⟨6, 1⟩),
   (0x1ee55, ⟨0, 0⟩), (0x1ee57, ⟨6, 1⟩), (0x1ee58, ⟨0, 0⟩), (0x1ee59, ⟨6, 1⟩), (0x1ee5a, ⟨0, 0⟩),
   (0x1ee5b, ⟨6, 1⟩), (0x1ee5c, ⟨0, 0⟩), (0x1ee5d, ⟨6, 1⟩), (0x1ee5e, ⟨0, 0⟩), (0x1ee5f, ⟨6, 1⟩),
   (0x1ee60, ⟨0, 0⟩), (0x1ee61, ⟨6, 1⟩), (0x1ee63, ⟨0, 0⟩), (0x1ee64, ⟨6, 1⟩), (0x1ee65, ⟨0, 0⟩),
   (0x1ee67, ⟨6, 1⟩), (0x1ee6b, ⟨0, 0⟩), (0x1ee6c, ⟨6, 1⟩), (0x1ee73, ⟨0, 0⟩), (0x1ee74, ⟨6, 1⟩),
   (0x1ee78, ⟨0, 0⟩), (0x1ee79, ⟨6, 1⟩), (0x1ee7d, ⟨0, 0⟩), (0x1ee7e, ⟨6, 1⟩), (0x1ee7f, ⟨0, 0⟩),
   (0x1ee80, ⟨6, 1⟩), (0x1ee8a, ⟨0, 0⟩), (0x1ee8b, ⟨6, 1⟩), (0x1ee9c, ⟨0, 0⟩), (0x1eea1, ⟨6, 1⟩),
   (0x1eea4, ⟨0, 0⟩), (0x1eea5, ⟨6, 1⟩), (0x1eeaa, ⟨0, 0⟩), (0x1eeab, ⟨6, 1⟩), (0x1eebc, ⟨0, 0⟩),
   (0x1eef0, ⟨6, 1⟩), (0x1eef2, ⟨0, 0⟩), (0x1f000, ⟨5, 1⟩), (0x1f02c, ⟨0, 0⟩), (0x1f030, ⟨5, 1⟩),
   (0x1f094, ⟨0, 0⟩), (0x1f0a0, ⟨6, 0⟩), (0x1f0af, ⟨0, 0⟩), (0x1f0b1, ⟨6, 0⟩), (0x1f0bf, ⟨7, 0⟩),
   (0x1f0c0, ⟨0, 0⟩), (0x1f0c1, ⟨6, 0⟩), (0x1f0d0, ⟨0, 0⟩), (0x1f0d1, ⟨6, 0⟩), (0x1f0e0, ⟨7, 0⟩),
   (0x1f0f6, ⟨0, 0⟩), (0x1f100, ⟨5, 2⟩), (0x1f10b, ⟨7, 0⟩), (0x1f10d, ⟨13, 0⟩), (0x1f110, ⟨5, 2⟩),
   (0x1f12f, ⟨11, 0⟩), (0x1f130, ⟨6, 0⟩), (0x1f131, ⟨5, 2⟩), (0x1f132, ⟨6, 0⟩), (0x1f13d, ⟨5, 2⟩),
   (0x1f13e, ⟨6, 0⟩), (0x1f13f, ⟨5, 2⟩), (0x1f140, ⟨6, 0⟩), (0x1f142, ⟨5, 2⟩), (0x1f143, ⟨6, 0⟩),
   (0x1f146, ⟨5, 2⟩), (0x1f147, ⟨6, 0⟩), (0x1f14a, ⟨5, 2⟩), (0x1f14f, ⟨6, 0⟩), (0x1f157, ⟨5, 2⟩),
   (0x1f158, ⟨6, 0⟩), (0x1f15f, ⟨5, 2⟩), (0x1f160, ⟨6, 0⟩), (0x1f16a, ⟨6, 1⟩), (0x1f16c, ⟨12, 0⟩),
   (0x1f16d, ⟨13, 0⟩), (0x1f170, ⟨6, 0⟩), (0x1f179, ⟨5, 2⟩), (0x1f17a, ⟨6, 0⟩), (0x1f17b, ⟨5, 2⟩),
   (0x1f17d, ⟨6, 0⟩), (0x1f17f, ⟨5, 2⟩), (0x1f180, ⟨6, 0⟩), (0x1f18a, ⟨5, 2⟩), (0x1f18e, ⟨6, 0⟩),
   (0x1f190, ⟨5, 2⟩), (0x1f191, ⟨6, 0⟩), (0x1f19b, ⟨9, 0⟩), (0x1f1ad, ⟨13, 0⟩), (0x1f1ae, ⟨0, 0⟩),
   (0x1f1e6, ⟨6, 0⟩), (0x1f200, ⟨5, 2⟩), (0x1f201, ⟨6, 0⟩), (0x1f203, ⟨0, 0⟩), (0x1f210, ⟨5, 2⟩),
   (0x1f232, ⟨6, 0⟩), (0x1f23b, ⟨9, 0⟩), (0x1f23c, ⟨0, 0⟩), (0x1f240, ⟨5, 2⟩), (0x1f249, ⟨0, 0⟩),
   (0x1f250, ⟨6, 0⟩), (0x1f252, ⟨0, 0⟩), (0x1f260, ⟨10, 0⟩), (0x1f266, ⟨0, 0⟩), (0x1f300, ⟨6, 0⟩),
   (0x1f321, ⟨7, 0⟩), (0x1f32d, ⟨8, 0⟩), (0x1f330, ⟨6, 0⟩), (0x1f336, ⟨7, 0⟩), (0x1f337, ⟨6, 0⟩),
   (0x1f37d, ⟨7, 0⟩), (0x1f37e, ⟨8, 0⟩), (0x1f380, ⟨6, 0⟩), (0x1f394, ⟨7, 0⟩), (0x1f3a0, ⟨6, 0⟩),
   (0x1f3c5, ⟨7, 0⟩), (0x1f3c6, ⟨6, 0⟩), (0x1f3cb, ⟨7, 0⟩), (0x1f3cf, ⟨8, 0⟩), (0x1f3d4, ⟨7, 0⟩),
   (0x1f3e0, ⟨6, 0⟩), (0x1f3f1, ⟨7, 0⟩), (0x1f3f8, ⟨8, 0⟩), (0x1f400, ⟨6, 0⟩), (0x1f43f, ⟨7, 0⟩),
   (0x1f440, ⟨6, 0⟩), (0x1f441, ⟨7, 0⟩), (0x1f442, ⟨6, 0⟩), (0x1f4f8, ⟨7, 0⟩), (0x1f4f9, ⟨6, 0⟩),
   (0x1f4fd, ⟨7, 0⟩), (0x1f4ff, ⟨8, 0⟩), (0x1f500, ⟨6, 0⟩), (0x1f53e, ⟨7, 0⟩), (0x1f540, ⟨6, 1⟩),
   (0x1f544, ⟨7, 0⟩), (0x1f54b, ⟨8, 0⟩), (0x1f550, ⟨6, 0⟩), (0x1f568, ⟨7, 0⟩), (0x1f57a, ⟨9, 0⟩),
   (0x1f57b, ⟨7, 0⟩), (0x1f5a4, ⟨9, 0⟩), (0x1f5a5, ⟨7, 0⟩), (0x1f5fb, ⟨6, 0⟩), (0x1f600, ⟨6, 1⟩),
   (0x1f601, ⟨6, 0⟩), (0x1f611, ⟨6, 1⟩), (0x1f612, ⟨6, 0⟩), (0x1f615, ⟨6, 1⟩), (0x1f616, ⟨6, 0⟩),
   (0x1f617, ⟨6, 1⟩), (0x1f618, ⟨6, 0⟩), (0x1f619, ⟨6, 1⟩), (0x1f61a, ⟨6, 0⟩), (0x1f61b, ⟨6, 1⟩),
   (0x1f61c, ⟨6, 0⟩), (0x1f61f, ⟨6, 1⟩), (0x1f620, ⟨6, 0⟩), (0x1f626, ⟨6, 1⟩), (0x1f628, ⟨6, 0⟩),
   (0x1f62c, ⟨6, 1⟩), (0x1f62d, ⟨6, 0⟩), (0x1f62e, ⟨6, 1⟩), (0x1f630, ⟨6, 0⟩), (0x1f634, ⟨6, 1⟩),
   (0x1f635, ⟨6, 0⟩), (0x1f641, ⟨7, 0⟩), (0x1f643, ⟨8, 0⟩), (0x1f645, ⟨6, 0⟩), (0x1f650, ⟨7, 0⟩),
   (0x1f680, ⟨6, 0⟩), (0x1f6c6, ⟨7, 0⟩), (0x1f6d0, ⟨8, 0⟩), (0x1f6d1, ⟨9, 0⟩), (0x1f6d3, ⟨10, 0⟩),
   (0x1f6d5, ⟨12, 0⟩), (0x1f6d6, ⟨13, 0⟩), (0x1f6d8, ⟨0, 0⟩), (0x1f6dc, ⟨15, 0⟩),
   (0x1f6dd, ⟨14, 0⟩), (0x1f6e0, ⟨7, 0⟩), (0x1f6ed, ⟨0, 0⟩), (0x1f6f0, ⟨7, 0⟩), (0x1f6f4, ⟨9, 0⟩),
   (0x1f6f7, ⟨10, 0⟩), (0x1f6f9, ⟨11, 0⟩), (0x1f6fa, ⟨12, 0⟩), (0x1f6fb, ⟨13, 0⟩),
   (0x1f6fd, ⟨0, 0⟩), (0x1f700, ⟨6, 0⟩), (0x1f774, ⟨15, 0⟩), (0x1f777, ⟨0, 0⟩), (0x1f77b, ⟨15, 0⟩),
   (0x1f780, ⟨7, 0⟩), (0x1f7d5, ⟨11, 0⟩), (0x1f7d9, ⟨15, 0⟩), (0x1f7da, ⟨0, 0⟩), (0x1f7e0, ⟨12, 0⟩),
   (0x1f7ec, ⟨0, 0⟩), (0x1f7f0, ⟨14, 0⟩), (0x1f7f1, ⟨0, 0⟩), (0x1f800, ⟨7, 0⟩), (0x1f80c, ⟨0, 0⟩),
   (0x1f810, ⟨7, 0⟩), (0x1f848, ⟨0, 0⟩), (0x1f850, ⟨7, 0⟩), (0x1f85a, ⟨0, 0⟩), (0x1f860, ⟨7, 0⟩),
   (0x1f888, ⟨0, 0⟩), (0x1f890, ⟨7, 0⟩), (0x1f8ae, ⟨0, 0⟩), (0x1f8b0, ⟨13, 0⟩), (0x1f8b2, ⟨16, 0⟩),
   (0x1f8bc, ⟨0, 0⟩), (0x1f8c0, ⟨16, 0⟩), (0x1f8c2, ⟨0, 0⟩), (0x1f900, ⟨10, 0⟩), (0x1f90c, ⟨13, 0⟩),
   (0x1f90d, ⟨12, 0⟩), (0x1f910, ⟨8, 0⟩), (0x1f919, ⟨9, 0⟩), (0x1f91f, ⟨10, 0⟩), (0x1f920, ⟨9, 0⟩),
   (0x1f928, ⟨10, 0⟩), (0x1f930, ⟨9, 0⟩), (0x1f931, ⟨10, 0⟩), (0x1f933, ⟨9, 0⟩), (0x1f93f, ⟨12, 0⟩),
   (0x1f940, ⟨9, 0⟩), (0x1f94c, ⟨10, 0⟩), (0x1f94d, ⟨11, 0⟩), (0x1f950, ⟨9, 0⟩), (0x1f95f, ⟨10, 0⟩),
   (0x1f96c, ⟨11, 0⟩), (0x1f971, ⟨12, 0⟩), (0x1f972, ⟨13, 0⟩), (0x1f973, ⟨11, 0⟩),
   (0x1f977, ⟨13, 0⟩), (0x1f979, ⟨14, 0⟩), (0x1f97a, ⟨11, 0⟩), (0x1f97b, ⟨12, 0⟩),
   (0x1f97c, ⟨11, 0⟩), (0x1f980, ⟨8, 0⟩), (0x1f985, ⟨9, 0⟩), (0x1f992, ⟨10, 0⟩), (0x1f998, ⟨11, 0⟩),
   (0x1f9a3, ⟨13, 0⟩), (0x1f9a5, ⟨12, 0⟩), (0x1f9ab, ⟨13, 0⟩), (0x1f9ae, ⟨12, 0⟩),
   (0x1f9b0, ⟨11, 0⟩), (0x1f9ba, ⟨12, 0⟩), (0x1f9c0, ⟨8, 0⟩), (0x1f9c1, ⟨11, 0⟩),
   (0x1f9c3, ⟨12, 0⟩), (0x1f9cb, ⟨13, 0⟩), (0x1f9cc, ⟨14, 0⟩), (0x1f9cd, ⟨12, 0⟩),
   (0x1f9d0, ⟨10, 0⟩), (0x1f9e7, ⟨11, 0⟩), (0x1fa00, ⟨12, 0⟩), (0x1fa54, ⟨0, 0⟩),
   (0x1fa60, ⟨11, 0⟩), (0x1fa6e, ⟨0, 0⟩), (0x1fa70, ⟨12, 0⟩), (0x1fa74, ⟨13, 0⟩),
   (0x1fa75, ⟨15, 0⟩), (0x1fa78, ⟨12, 0⟩), (0x1fa7b, ⟨14, 0⟩), (0x1fa7d, ⟨0, 0⟩),
   (0x1fa80, ⟨12, 0⟩), (0x1fa83, ⟨13, 0⟩), (0x1fa87, ⟨15, 0⟩), (0x1fa89, ⟨16, 0⟩),
   (0x1fa8a, ⟨0, 0⟩), (0x1fa8f, ⟨16, 0⟩), (0x1fa90, ⟨12, 0⟩), (0x1fa96, ⟨13, 0⟩),
   (0x1faa9, ⟨14, 0⟩), (0x1faad, ⟨15, 0⟩), (0x1fab0, ⟨13, 0⟩), (0x1fab7, ⟨14, 0⟩),
   (0x1fabb, ⟨15, 0⟩), (0x1fabe, ⟨16, 0⟩), (0x1fabf, ⟨15, 0⟩), (0x1fac0, ⟨13, 0⟩),
   (0x1fac3, ⟨14, 0⟩), (0x1fac6, ⟨16, 0⟩), (0x1fac7, ⟨0, 0⟩), (0x1face, ⟨15, 0⟩),
   (0x1fad0, ⟨13, 0⟩), (0x1fad7, ⟨14, 0⟩), (0x1fada, ⟨15, 0⟩), (0x1fadc, ⟨16, 0⟩),
   (0x1fadd, ⟨0, 0⟩), (0x1fadf, ⟨16, 0⟩), (0x1fae0, ⟨14, 0⟩), (0x1fae8, ⟨15, 0⟩),
   (0x1fae9, ⟨16, 0⟩), (0x1faea, ⟨0, 0⟩), (0x1faf0, ⟨14, 0⟩), (0x1faf7, ⟨15, 0⟩), (0x1faf9, ⟨0, 0⟩),
   (0x1fb00, ⟨13, 0⟩), (0x1fb93, ⟨0, 0⟩), (0x1fb94, ⟨13, 0⟩), (0x1fbcb, ⟨16, 0⟩),
   (0x1fbf0, ⟨13, 0⟩), (0x1fbfa, ⟨0, 0⟩), (0x1fffe, ⟨2, 0⟩), (0x20000, ⟨3, 1⟩), (0x2a6d7, ⟨13, 0⟩),
   (0x2a6de, ⟨14, 0⟩), (0x2a6e0, ⟨0, 0⟩), (0x2a700, ⟨5, 2⟩), (0x2b735, ⟨14, 0⟩), (0x2b739, ⟨15, 0⟩),
   (0x2b73a, ⟨0, 0⟩), (0x2b740, ⟨6, 0⟩), (0x2b81e, ⟨0, 0⟩), (0x2b820, ⟨8, 0⟩), (0x2cea2, ⟨0, 0⟩),
   (0x2ceb0, ⟨10, 0⟩), (0x2ebe1, ⟨0, 0⟩), (0x2ebf0, ⟨15, 1⟩), (0x2ee5e, ⟨0, 0⟩), (0x2f800, ⟨3, 1⟩),
   (0x2fa1e, ⟨0, 0⟩), (0x2fffe, ⟨2, 0⟩), (0x30000, ⟨13, 0⟩), (0x3134b, ⟨0, 0⟩), (0x31350, ⟨15, 0⟩),
   (0x323b0, ⟨0, 0⟩), (0x3fffe, ⟨2, 0⟩), (0x40000, ⟨0, 0⟩), (0x4fffe, ⟨2, 0⟩), (0x50000, ⟨0, 0⟩),
   (0x5fffe, ⟨2, 0⟩), (0x60000, ⟨0, 0⟩), (0x6fffe, ⟨2, 0⟩), (0x70000, ⟨0, 0⟩), (0x7fffe, ⟨2, 0⟩),
   (0x80000, ⟨0, 0⟩), (0x8fffe, ⟨2, 0⟩), (0x90000, ⟨0, 0⟩), (0x9fffe, ⟨2, 0⟩), (0xa0000, ⟨0, 0⟩),
   (0xafffe, ⟨2, 0⟩), (0xb0000, ⟨0, 0⟩), (0xbfffe, ⟨2, 0⟩), (0xc0000, ⟨0, 0⟩), (0xcfffe, ⟨2, 0⟩),
   (0xd0000, ⟨0, 0⟩), (0xdfffe, ⟨2, 0⟩), (0xe0000, ⟨0, 0⟩), (0xe0001, ⟨3, 1⟩), (0xe0002, ⟨0, 0⟩),
   (0xe0020, ⟨3, 1⟩), (0xe0080, ⟨0, 0⟩), (0xe0100, ⟨4, 0⟩), (0xe01f0, ⟨0, 0⟩), (0xefffe, ⟨2, 0⟩)]

namespace Version

/-- Whether a version comes before another or is the same. -/
def isUpTo (version other : Version) : Bool :=
  version.major < other.major || version.major = other.major && version.minor ≤ other.minor

/-- The version with the given name: two numbers with a point between them, or without one behind
the letter `v`. -/
def ofName? (name : String) : Option Version :=
  versions.find? fun version =>
    let named (sign point : String) :=
      sign ++ toString version.major ++ point ++ toString version.minor
    name = named "" "." || name = named "v" ""

/-- The characters that a version or one before it assigned. -/
def members (version : Version) : CharSet :=
  .ofSteps ageTable fun age => age ≠ ⟨0, 0⟩ && age.isUpTo version

end Version

end Workings.Text
