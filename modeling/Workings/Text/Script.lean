import Workings.Text.StepTable

/-!
# Scripts

Every character belongs to one script, of which one is common to all texts and one is inherited from
the character before. The table follows version 16 of the character standard.
-/

namespace Workings.Text

/-- A script, by its four-letter code. -/
inductive Script where
  | adlm | aghb | ahom | arab | armi | armn | avst | bali | bamu | bass | batk | beng | bhks | bopo
  | brah | brai | bugi | buhd | cakm | cans | cari | cham | cher | chrs | copt | cpmn | cprt | cyrl
  | deva | diak | dogr | dsrt | dupl | egyp | elba | elym | ethi | gara | geor | glag | gong | gonm
  | goth | gran | grek | gujr | gukh | guru | hang | hani | hano | hatr | hebr | hira | hluw | hmng
  | hmnp | hung | ital | java | kali | kana | kawi | khar | khmr | khoj | kits | knda | krai | kthi
  | lana | laoo | latn | lepc | limb | lina | linb | lisu | lyci | lydi | mahj | maka | mand | mani
  | marc | medf | mend | merc | mero | mlym | modi | mong | mroo | mtei | mult | mymr | nagm | nand
  | narb | nbat | newa | nkoo | nshu | ogam | olck | onao | orkh | orya | osge | osma | ougr | palm
  | pauc | perm | phag | phli | phlp | phnx | plrd | prti | rjng | rohg | runr | samr | sarb | saur
  | sgnw | shaw | shrd | sidd | sind | sinh | sogd | sogo | sora | soyo | sund | sunu | sylo | syrc
  | tagb | takr | tale | talu | taml | tang | tavt | telu | tfng | tglg | thaa | thai | tibt | tirh
  | tnsa | todr | toto | tutg | ugar | vaii | vith | wara | wcho | xpeo | xsux | yezi | yiii | zanb
  | zinh | zyyy | zzzz
  deriving DecidableEq, Repr, Inhabited

set_option maxRecDepth 100000 in
/-- Where runs of characters of one script begin. Code points without a script have the code
`zzzz`. -/
def scriptTable : StepTable Script :=
  [(0x0, .zyyy), (0x41, .latn), (0x5b, .zyyy), (0x61, .latn), (0x7b, .zyyy), (0xaa, .latn),
   (0xab, .zyyy), (0xba, .latn), (0xbb, .zyyy), (0xc0, .latn), (0xd7, .zyyy), (0xd8, .latn),
   (0xf7, .zyyy), (0xf8, .latn), (0x2b9, .zyyy), (0x2e0, .latn), (0x2e5, .zyyy), (0x2ea, .bopo),
   (0x2ec, .zyyy), (0x300, .zinh), (0x370, .grek), (0x374, .zyyy), (0x375, .grek), (0x378, .zzzz),
   (0x37a, .grek), (0x37e, .zyyy), (0x37f, .grek), (0x380, .zzzz), (0x384, .grek), (0x385, .zyyy),
   (0x386, .grek), (0x387, .zyyy), (0x388, .grek), (0x38b, .zzzz), (0x38c, .grek), (0x38d, .zzzz),
   (0x38e, .grek), (0x3a2, .zzzz), (0x3a3, .grek), (0x3e2, .copt), (0x3f0, .grek), (0x400, .cyrl),
   (0x485, .zinh), (0x487, .cyrl), (0x530, .zzzz), (0x531, .armn), (0x557, .zzzz), (0x559, .armn),
   (0x58b, .zzzz), (0x58d, .armn), (0x590, .zzzz), (0x591, .hebr), (0x5c8, .zzzz), (0x5d0, .hebr),
   (0x5eb, .zzzz), (0x5ef, .hebr), (0x5f5, .zzzz), (0x600, .arab), (0x605, .zyyy), (0x606, .arab),
   (0x60c, .zyyy), (0x60d, .arab), (0x61b, .zyyy), (0x61c, .arab), (0x61f, .zyyy), (0x620, .arab),
   (0x640, .zyyy), (0x641, .arab), (0x64b, .zinh), (0x656, .arab), (0x670, .zinh), (0x671, .arab),
   (0x6dd, .zyyy), (0x6de, .arab), (0x700, .syrc), (0x70e, .zzzz), (0x70f, .syrc), (0x74b, .zzzz),
   (0x74d, .syrc), (0x750, .arab), (0x780, .thaa), (0x7b2, .zzzz), (0x7c0, .nkoo), (0x7fb, .zzzz),
   (0x7fd, .nkoo), (0x800, .samr), (0x82e, .zzzz), (0x830, .samr), (0x83f, .zzzz), (0x840, .mand),
   (0x85c, .zzzz), (0x85e, .mand), (0x85f, .zzzz), (0x860, .syrc), (0x86b, .zzzz), (0x870, .arab),
   (0x88f, .zzzz), (0x890, .arab), (0x892, .zzzz), (0x897, .arab), (0x8e2, .zyyy), (0x8e3, .arab),
   (0x900, .deva), (0x951, .zinh), (0x955, .deva), (0x964, .zyyy), (0x966, .deva), (0x980, .beng),
   (0x984, .zzzz), (0x985, .beng), (0x98d, .zzzz), (0x98f, .beng), (0x991, .zzzz), (0x993, .beng),
   (0x9a9, .zzzz), (0x9aa, .beng), (0x9b1, .zzzz), (0x9b2, .beng), (0x9b3, .zzzz), (0x9b6, .beng),
   (0x9ba, .zzzz), (0x9bc, .beng), (0x9c5, .zzzz), (0x9c7, .beng), (0x9c9, .zzzz), (0x9cb, .beng),
   (0x9cf, .zzzz), (0x9d7, .beng), (0x9d8, .zzzz), (0x9dc, .beng), (0x9de, .zzzz), (0x9df, .beng),
   (0x9e4, .zzzz), (0x9e6, .beng), (0x9ff, .zzzz), (0xa01, .guru), (0xa04, .zzzz), (0xa05, .guru),
   (0xa0b, .zzzz), (0xa0f, .guru), (0xa11, .zzzz), (0xa13, .guru), (0xa29, .zzzz), (0xa2a, .guru),
   (0xa31, .zzzz), (0xa32, .guru), (0xa34, .zzzz), (0xa35, .guru), (0xa37, .zzzz), (0xa38, .guru),
   (0xa3a, .zzzz), (0xa3c, .guru), (0xa3d, .zzzz), (0xa3e, .guru), (0xa43, .zzzz), (0xa47, .guru),
   (0xa49, .zzzz), (0xa4b, .guru), (0xa4e, .zzzz), (0xa51, .guru), (0xa52, .zzzz), (0xa59, .guru),
   (0xa5d, .zzzz), (0xa5e, .guru), (0xa5f, .zzzz), (0xa66, .guru), (0xa77, .zzzz), (0xa81, .gujr),
   (0xa84, .zzzz), (0xa85, .gujr), (0xa8e, .zzzz), (0xa8f, .gujr), (0xa92, .zzzz), (0xa93, .gujr),
   (0xaa9, .zzzz), (0xaaa, .gujr), (0xab1, .zzzz), (0xab2, .gujr), (0xab4, .zzzz), (0xab5, .gujr),
   (0xaba, .zzzz), (0xabc, .gujr), (0xac6, .zzzz), (0xac7, .gujr), (0xaca, .zzzz), (0xacb, .gujr),
   (0xace, .zzzz), (0xad0, .gujr), (0xad1, .zzzz), (0xae0, .gujr), (0xae4, .zzzz), (0xae6, .gujr),
   (0xaf2, .zzzz), (0xaf9, .gujr), (0xb00, .zzzz), (0xb01, .orya), (0xb04, .zzzz), (0xb05, .orya),
   (0xb0d, .zzzz), (0xb0f, .orya), (0xb11, .zzzz), (0xb13, .orya), (0xb29, .zzzz), (0xb2a, .orya),
   (0xb31, .zzzz), (0xb32, .orya), (0xb34, .zzzz), (0xb35, .orya), (0xb3a, .zzzz), (0xb3c, .orya),
   (0xb45, .zzzz), (0xb47, .orya), (0xb49, .zzzz), (0xb4b, .orya), (0xb4e, .zzzz), (0xb55, .orya),
   (0xb58, .zzzz), (0xb5c, .orya), (0xb5e, .zzzz), (0xb5f, .orya), (0xb64, .zzzz), (0xb66, .orya),
   (0xb78, .zzzz), (0xb82, .taml), (0xb84, .zzzz), (0xb85, .taml), (0xb8b, .zzzz), (0xb8e, .taml),
   (0xb91, .zzzz), (0xb92, .taml), (0xb96, .zzzz), (0xb99, .taml), (0xb9b, .zzzz), (0xb9c, .taml),
   (0xb9d, .zzzz), (0xb9e, .taml), (0xba0, .zzzz), (0xba3, .taml), (0xba5, .zzzz), (0xba8, .taml),
   (0xbab, .zzzz), (0xbae, .taml), (0xbba, .zzzz), (0xbbe, .taml), (0xbc3, .zzzz), (0xbc6, .taml),
   (0xbc9, .zzzz), (0xbca, .taml), (0xbce, .zzzz), (0xbd0, .taml), (0xbd1, .zzzz), (0xbd7, .taml),
   (0xbd8, .zzzz), (0xbe6, .taml), (0xbfb, .zzzz), (0xc00, .telu), (0xc0d, .zzzz), (0xc0e, .telu),
   (0xc11, .zzzz), (0xc12, .telu), (0xc29, .zzzz), (0xc2a, .telu), (0xc3a, .zzzz), (0xc3c, .telu),
   (0xc45, .zzzz), (0xc46, .telu), (0xc49, .zzzz), (0xc4a, .telu), (0xc4e, .zzzz), (0xc55, .telu),
   (0xc57, .zzzz), (0xc58, .telu), (0xc5b, .zzzz), (0xc5d, .telu), (0xc5e, .zzzz), (0xc60, .telu),
   (0xc64, .zzzz), (0xc66, .telu), (0xc70, .zzzz), (0xc77, .telu), (0xc80, .knda), (0xc8d, .zzzz),
   (0xc8e, .knda), (0xc91, .zzzz), (0xc92, .knda), (0xca9, .zzzz), (0xcaa, .knda), (0xcb4, .zzzz),
   (0xcb5, .knda), (0xcba, .zzzz), (0xcbc, .knda), (0xcc5, .zzzz), (0xcc6, .knda), (0xcc9, .zzzz),
   (0xcca, .knda), (0xcce, .zzzz), (0xcd5, .knda), (0xcd7, .zzzz), (0xcdd, .knda), (0xcdf, .zzzz),
   (0xce0, .knda), (0xce4, .zzzz), (0xce6, .knda), (0xcf0, .zzzz), (0xcf1, .knda), (0xcf4, .zzzz),
   (0xd00, .mlym), (0xd0d, .zzzz), (0xd0e, .mlym), (0xd11, .zzzz), (0xd12, .mlym), (0xd45, .zzzz),
   (0xd46, .mlym), (0xd49, .zzzz), (0xd4a, .mlym), (0xd50, .zzzz), (0xd54, .mlym), (0xd64, .zzzz),
   (0xd66, .mlym), (0xd80, .zzzz), (0xd81, .sinh), (0xd84, .zzzz), (0xd85, .sinh), (0xd97, .zzzz),
   (0xd9a, .sinh), (0xdb2, .zzzz), (0xdb3, .sinh), (0xdbc, .zzzz), (0xdbd, .sinh), (0xdbe, .zzzz),
   (0xdc0, .sinh), (0xdc7, .zzzz), (0xdca, .sinh), (0xdcb, .zzzz), (0xdcf, .sinh), (0xdd5, .zzzz),
   (0xdd6, .sinh), (0xdd7, .zzzz), (0xdd8, .sinh), (0xde0, .zzzz), (0xde6, .sinh), (0xdf0, .zzzz),
   (0xdf2, .sinh), (0xdf5, .zzzz), (0xe01, .thai), (0xe3b, .zzzz), (0xe3f, .zyyy), (0xe40, .thai),
   (0xe5c, .zzzz), (0xe81, .laoo), (0xe83, .zzzz), (0xe84, .laoo), (0xe85, .zzzz), (0xe86, .laoo),
   (0xe8b, .zzzz), (0xe8c, .laoo), (0xea4, .zzzz), (0xea5, .laoo), (0xea6, .zzzz), (0xea7, .laoo),
   (0xebe, .zzzz), (0xec0, .laoo), (0xec5, .zzzz), (0xec6, .laoo), (0xec7, .zzzz), (0xec8, .laoo),
   (0xecf, .zzzz), (0xed0, .laoo), (0xeda, .zzzz), (0xedc, .laoo), (0xee0, .zzzz), (0xf00, .tibt),
   (0xf48, .zzzz), (0xf49, .tibt), (0xf6d, .zzzz), (0xf71, .tibt), (0xf98, .zzzz), (0xf99, .tibt),
   (0xfbd, .zzzz), (0xfbe, .tibt), (0xfcd, .zzzz), (0xfce, .tibt), (0xfd5, .zyyy), (0xfd9, .tibt),
   (0xfdb, .zzzz), (0x1000, .mymr), (0x10a0, .geor), (0x10c6, .zzzz), (0x10c7, .geor),
   (0x10c8, .zzzz), (0x10cd, .geor), (0x10ce, .zzzz), (0x10d0, .geor), (0x10fb, .zyyy),
   (0x10fc, .geor), (0x1100, .hang), (0x1200, .ethi), (0x1249, .zzzz), (0x124a, .ethi),
   (0x124e, .zzzz), (0x1250, .ethi), (0x1257, .zzzz), (0x1258, .ethi), (0x1259, .zzzz),
   (0x125a, .ethi), (0x125e, .zzzz), (0x1260, .ethi), (0x1289, .zzzz), (0x128a, .ethi),
   (0x128e, .zzzz), (0x1290, .ethi), (0x12b1, .zzzz), (0x12b2, .ethi), (0x12b6, .zzzz),
   (0x12b8, .ethi), (0x12bf, .zzzz), (0x12c0, .ethi), (0x12c1, .zzzz), (0x12c2, .ethi),
   (0x12c6, .zzzz), (0x12c8, .ethi), (0x12d7, .zzzz), (0x12d8, .ethi), (0x1311, .zzzz),
   (0x1312, .ethi), (0x1316, .zzzz), (0x1318, .ethi), (0x135b, .zzzz), (0x135d, .ethi),
   (0x137d, .zzzz), (0x1380, .ethi), (0x139a, .zzzz), (0x13a0, .cher), (0x13f6, .zzzz),
   (0x13f8, .cher), (0x13fe, .zzzz), (0x1400, .cans), (0x1680, .ogam), (0x169d, .zzzz),
   (0x16a0, .runr), (0x16eb, .zyyy), (0x16ee, .runr), (0x16f9, .zzzz), (0x1700, .tglg),
   (0x1716, .zzzz), (0x171f, .tglg), (0x1720, .hano), (0x1735, .zyyy), (0x1737, .zzzz),
   (0x1740, .buhd), (0x1754, .zzzz), (0x1760, .tagb), (0x176d, .zzzz), (0x176e, .tagb),
   (0x1771, .zzzz), (0x1772, .tagb), (0x1774, .zzzz), (0x1780, .khmr), (0x17de, .zzzz),
   (0x17e0, .khmr), (0x17ea, .zzzz), (0x17f0, .khmr), (0x17fa, .zzzz), (0x1800, .mong),
   (0x1802, .zyyy), (0x1804, .mong), (0x1805, .zyyy), (0x1806, .mong), (0x181a, .zzzz),
   (0x1820, .mong), (0x1879, .zzzz), (0x1880, .mong), (0x18ab, .zzzz), (0x18b0, .cans),
   (0x18f6, .zzzz), (0x1900, .limb), (0x191f, .zzzz), (0x1920, .limb), (0x192c, .zzzz),
   (0x1930, .limb), (0x193c, .zzzz), (0x1940, .limb), (0x1941, .zzzz), (0x1944, .limb),
   (0x1950, .tale), (0x196e, .zzzz), (0x1970, .tale), (0x1975, .zzzz), (0x1980, .talu),
   (0x19ac, .zzzz), (0x19b0, .talu), (0x19ca, .zzzz), (0x19d0, .talu), (0x19db, .zzzz),
   (0x19de, .talu), (0x19e0, .khmr), (0x1a00, .bugi), (0x1a1c, .zzzz), (0x1a1e, .bugi),
   (0x1a20, .lana), (0x1a5f, .zzzz), (0x1a60, .lana), (0x1a7d, .zzzz), (0x1a7f, .lana),
   (0x1a8a, .zzzz), (0x1a90, .lana), (0x1a9a, .zzzz), (0x1aa0, .lana), (0x1aae, .zzzz),
   (0x1ab0, .zinh), (0x1acf, .zzzz), (0x1b00, .bali), (0x1b4d, .zzzz), (0x1b4e, .bali),
   (0x1b80, .sund), (0x1bc0, .batk), (0x1bf4, .zzzz), (0x1bfc, .batk), (0x1c00, .lepc),
   (0x1c38, .zzzz), (0x1c3b, .lepc), (0x1c4a, .zzzz), (0x1c4d, .lepc), (0x1c50, .olck),
   (0x1c80, .cyrl), (0x1c8b, .zzzz), (0x1c90, .geor), (0x1cbb, .zzzz), (0x1cbd, .geor),
   (0x1cc0, .sund), (0x1cc8, .zzzz), (0x1cd0, .zinh), (0x1cd3, .zyyy), (0x1cd4, .zinh),
   (0x1ce1, .zyyy), (0x1ce2, .zinh), (0x1ce9, .zyyy), (0x1ced, .zinh), (0x1cee, .zyyy),
   (0x1cf4, .zinh), (0x1cf5, .zyyy), (0x1cf8, .zinh), (0x1cfa, .zyyy), (0x1cfb, .zzzz),
   (0x1d00, .latn), (0x1d26, .grek), (0x1d2b, .cyrl), (0x1d2c, .latn), (0x1d5d, .grek),
   (0x1d62, .latn), (0x1d66, .grek), (0x1d6b, .latn), (0x1d78, .cyrl), (0x1d79, .latn),
   (0x1dbf, .grek), (0x1dc0, .zinh), (0x1e00, .latn), (0x1f00, .grek), (0x1f16, .zzzz),
   (0x1f18, .grek), (0x1f1e, .zzzz), (0x1f20, .grek), (0x1f46, .zzzz), (0x1f48, .grek),
   (0x1f4e, .zzzz), (0x1f50, .grek), (0x1f58, .zzzz), (0x1f59, .grek), (0x1f5a, .zzzz),
   (0x1f5b, .grek), (0x1f5c, .zzzz), (0x1f5d, .grek), (0x1f5e, .zzzz), (0x1f5f, .grek),
   (0x1f7e, .zzzz), (0x1f80, .grek), (0x1fb5, .zzzz), (0x1fb6, .grek), (0x1fc5, .zzzz),
   (0x1fc6, .grek), (0x1fd4, .zzzz), (0x1fd6, .grek), (0x1fdc, .zzzz), (0x1fdd, .grek),
   (0x1ff0, .zzzz), (0x1ff2, .grek), (0x1ff5, .zzzz), (0x1ff6, .grek), (0x1fff, .zzzz),
   (0x2000, .zyyy), (0x200c, .zinh), (0x200e, .zyyy), (0x2065, .zzzz), (0x2066, .zyyy),
   (0x2071, .latn), (0x2072, .zzzz), (0x2074, .zyyy), (0x207f, .latn), (0x2080, .zyyy),
   (0x208f, .zzzz), (0x2090, .latn), (0x209d, .zzzz), (0x20a0, .zyyy), (0x20c1, .zzzz),
   (0x20d0, .zinh), (0x20f1, .zzzz), (0x2100, .zyyy), (0x2126, .grek), (0x2127, .zyyy),
   (0x212a, .latn), (0x212c, .zyyy), (0x2132, .latn), (0x2133, .zyyy), (0x214e, .latn),
   (0x214f, .zyyy), (0x2160, .latn), (0x2189, .zyyy), (0x218c, .zzzz), (0x2190, .zyyy),
   (0x242a, .zzzz), (0x2440, .zyyy), (0x244b, .zzzz), (0x2460, .zyyy), (0x2800, .brai),
   (0x2900, .zyyy), (0x2b74, .zzzz), (0x2b76, .zyyy), (0x2b96, .zzzz), (0x2b97, .zyyy),
   (0x2c00, .glag), (0x2c60, .latn), (0x2c80, .copt), (0x2cf4, .zzzz), (0x2cf9, .copt),
   (0x2d00, .geor), (0x2d26, .zzzz), (0x2d27, .geor), (0x2d28, .zzzz), (0x2d2d, .geor),
   (0x2d2e, .zzzz), (0x2d30, .tfng), (0x2d68, .zzzz), (0x2d6f, .tfng), (0x2d71, .zzzz),
   (0x2d7f, .tfng), (0x2d80, .ethi), (0x2d97, .zzzz), (0x2da0, .ethi), (0x2da7, .zzzz),
   (0x2da8, .ethi), (0x2daf, .zzzz), (0x2db0, .ethi), (0x2db7, .zzzz), (0x2db8, .ethi),
   (0x2dbf, .zzzz), (0x2dc0, .ethi), (0x2dc7, .zzzz), (0x2dc8, .ethi), (0x2dcf, .zzzz),
   (0x2dd0, .ethi), (0x2dd7, .zzzz), (0x2dd8, .ethi), (0x2ddf, .zzzz), (0x2de0, .cyrl),
   (0x2e00, .zyyy), (0x2e5e, .zzzz), (0x2e80, .hani), (0x2e9a, .zzzz), (0x2e9b, .hani),
   (0x2ef4, .zzzz), (0x2f00, .hani), (0x2fd6, .zzzz), (0x2ff0, .zyyy), (0x3005, .hani),
   (0x3006, .zyyy), (0x3007, .hani), (0x3008, .zyyy), (0x3021, .hani), (0x302a, .zinh),
   (0x302e, .hang), (0x3030, .zyyy), (0x3038, .hani), (0x303c, .zyyy), (0x3040, .zzzz),
   (0x3041, .hira), (0x3097, .zzzz), (0x3099, .zinh), (0x309b, .zyyy), (0x309d, .hira),
   (0x30a0, .zyyy), (0x30a1, .kana), (0x30fb, .zyyy), (0x30fd, .kana), (0x3100, .zzzz),
   (0x3105, .bopo), (0x3130, .zzzz), (0x3131, .hang), (0x318f, .zzzz), (0x3190, .zyyy),
   (0x31a0, .bopo), (0x31c0, .zyyy), (0x31e6, .zzzz), (0x31ef, .zyyy), (0x31f0, .kana),
   (0x3200, .hang), (0x321f, .zzzz), (0x3220, .zyyy), (0x3260, .hang), (0x327f, .zyyy),
   (0x32d0, .kana), (0x32ff, .zyyy), (0x3300, .kana), (0x3358, .zyyy), (0x3400, .hani),
   (0x4dc0, .zyyy), (0x4e00, .hani), (0xa000, .yiii), (0xa48d, .zzzz), (0xa490, .yiii),
   (0xa4c7, .zzzz), (0xa4d0, .lisu), (0xa500, .vaii), (0xa62c, .zzzz), (0xa640, .cyrl),
   (0xa6a0, .bamu), (0xa6f8, .zzzz), (0xa700, .zyyy), (0xa722, .latn), (0xa788, .zyyy),
   (0xa78b, .latn), (0xa7ce, .zzzz), (0xa7d0, .latn), (0xa7d2, .zzzz), (0xa7d3, .latn),
   (0xa7d4, .zzzz), (0xa7d5, .latn), (0xa7dd, .zzzz), (0xa7f2, .latn), (0xa800, .sylo),
   (0xa82d, .zzzz), (0xa830, .zyyy), (0xa83a, .zzzz), (0xa840, .phag), (0xa878, .zzzz),
   (0xa880, .saur), (0xa8c6, .zzzz), (0xa8ce, .saur), (0xa8da, .zzzz), (0xa8e0, .deva),
   (0xa900, .kali), (0xa92e, .zyyy), (0xa92f, .kali), (0xa930, .rjng), (0xa954, .zzzz),
   (0xa95f, .rjng), (0xa960, .hang), (0xa97d, .zzzz), (0xa980, .java), (0xa9ce, .zzzz),
   (0xa9cf, .zyyy), (0xa9d0, .java), (0xa9da, .zzzz), (0xa9de, .java), (0xa9e0, .mymr),
   (0xa9ff, .zzzz), (0xaa00, .cham), (0xaa37, .zzzz), (0xaa40, .cham), (0xaa4e, .zzzz),
   (0xaa50, .cham), (0xaa5a, .zzzz), (0xaa5c, .cham), (0xaa60, .mymr), (0xaa80, .tavt),
   (0xaac3, .zzzz), (0xaadb, .tavt), (0xaae0, .mtei), (0xaaf7, .zzzz), (0xab01, .ethi),
   (0xab07, .zzzz), (0xab09, .ethi), (0xab0f, .zzzz), (0xab11, .ethi), (0xab17, .zzzz),
   (0xab20, .ethi), (0xab27, .zzzz), (0xab28, .ethi), (0xab2f, .zzzz), (0xab30, .latn),
   (0xab5b, .zyyy), (0xab5c, .latn), (0xab65, .grek), (0xab66, .latn), (0xab6a, .zyyy),
   (0xab6c, .zzzz), (0xab70, .cher), (0xabc0, .mtei), (0xabee, .zzzz), (0xabf0, .mtei),
   (0xabfa, .zzzz), (0xac00, .hang), (0xd7a4, .zzzz), (0xd7b0, .hang), (0xd7c7, .zzzz),
   (0xd7cb, .hang), (0xd7fc, .zzzz), (0xf900, .hani), (0xfa6e, .zzzz), (0xfa70, .hani),
   (0xfada, .zzzz), (0xfb00, .latn), (0xfb07, .zzzz), (0xfb13, .armn), (0xfb18, .zzzz),
   (0xfb1d, .hebr), (0xfb37, .zzzz), (0xfb38, .hebr), (0xfb3d, .zzzz), (0xfb3e, .hebr),
   (0xfb3f, .zzzz), (0xfb40, .hebr), (0xfb42, .zzzz), (0xfb43, .hebr), (0xfb45, .zzzz),
   (0xfb46, .hebr), (0xfb50, .arab), (0xfbc3, .zzzz), (0xfbd3, .arab), (0xfd3e, .zyyy),
   (0xfd40, .arab), (0xfd90, .zzzz), (0xfd92, .arab), (0xfdc8, .zzzz), (0xfdcf, .arab),
   (0xfdd0, .zzzz), (0xfdf0, .arab), (0xfe00, .zinh), (0xfe10, .zyyy), (0xfe1a, .zzzz),
   (0xfe20, .zinh), (0xfe2e, .cyrl), (0xfe30, .zyyy), (0xfe53, .zzzz), (0xfe54, .zyyy),
   (0xfe67, .zzzz), (0xfe68, .zyyy), (0xfe6c, .zzzz), (0xfe70, .arab), (0xfe75, .zzzz),
   (0xfe76, .arab), (0xfefd, .zzzz), (0xfeff, .zyyy), (0xff00, .zzzz), (0xff01, .zyyy),
   (0xff21, .latn), (0xff3b, .zyyy), (0xff41, .latn), (0xff5b, .zyyy), (0xff66, .kana),
   (0xff70, .zyyy), (0xff71, .kana), (0xff9e, .zyyy), (0xffa0, .hang), (0xffbf, .zzzz),
   (0xffc2, .hang), (0xffc8, .zzzz), (0xffca, .hang), (0xffd0, .zzzz), (0xffd2, .hang),
   (0xffd8, .zzzz), (0xffda, .hang), (0xffdd, .zzzz), (0xffe0, .zyyy), (0xffe7, .zzzz),
   (0xffe8, .zyyy), (0xffef, .zzzz), (0xfff9, .zyyy), (0xfffe, .zzzz), (0x10000, .linb),
   (0x1000c, .zzzz), (0x1000d, .linb), (0x10027, .zzzz), (0x10028, .linb), (0x1003b, .zzzz),
   (0x1003c, .linb), (0x1003e, .zzzz), (0x1003f, .linb), (0x1004e, .zzzz), (0x10050, .linb),
   (0x1005e, .zzzz), (0x10080, .linb), (0x100fb, .zzzz), (0x10100, .zyyy), (0x10103, .zzzz),
   (0x10107, .zyyy), (0x10134, .zzzz), (0x10137, .zyyy), (0x10140, .grek), (0x1018f, .zzzz),
   (0x10190, .zyyy), (0x1019d, .zzzz), (0x101a0, .grek), (0x101a1, .zzzz), (0x101d0, .zyyy),
   (0x101fd, .zinh), (0x101fe, .zzzz), (0x10280, .lyci), (0x1029d, .zzzz), (0x102a0, .cari),
   (0x102d1, .zzzz), (0x102e0, .zinh), (0x102e1, .zyyy), (0x102fc, .zzzz), (0x10300, .ital),
   (0x10324, .zzzz), (0x1032d, .ital), (0x10330, .goth), (0x1034b, .zzzz), (0x10350, .perm),
   (0x1037b, .zzzz), (0x10380, .ugar), (0x1039e, .zzzz), (0x1039f, .ugar), (0x103a0, .xpeo),
   (0x103c4, .zzzz), (0x103c8, .xpeo), (0x103d6, .zzzz), (0x10400, .dsrt), (0x10450, .shaw),
   (0x10480, .osma), (0x1049e, .zzzz), (0x104a0, .osma), (0x104aa, .zzzz), (0x104b0, .osge),
   (0x104d4, .zzzz), (0x104d8, .osge), (0x104fc, .zzzz), (0x10500, .elba), (0x10528, .zzzz),
   (0x10530, .aghb), (0x10564, .zzzz), (0x1056f, .aghb), (0x10570, .vith), (0x1057b, .zzzz),
   (0x1057c, .vith), (0x1058b, .zzzz), (0x1058c, .vith), (0x10593, .zzzz), (0x10594, .vith),
   (0x10596, .zzzz), (0x10597, .vith), (0x105a2, .zzzz), (0x105a3, .vith), (0x105b2, .zzzz),
   (0x105b3, .vith), (0x105ba, .zzzz), (0x105bb, .vith), (0x105bd, .zzzz), (0x105c0, .todr),
   (0x105f4, .zzzz), (0x10600, .lina), (0x10737, .zzzz), (0x10740, .lina), (0x10756, .zzzz),
   (0x10760, .lina), (0x10768, .zzzz), (0x10780, .latn), (0x10786, .zzzz), (0x10787, .latn),
   (0x107b1, .zzzz), (0x107b2, .latn), (0x107bb, .zzzz), (0x10800, .cprt), (0x10806, .zzzz),
   (0x10808, .cprt), (0x10809, .zzzz), (0x1080a, .cprt), (0x10836, .zzzz), (0x10837, .cprt),
   (0x10839, .zzzz), (0x1083c, .cprt), (0x1083d, .zzzz), (0x1083f, .cprt), (0x10840, .armi),
   (0x10856, .zzzz), (0x10857, .armi), (0x10860, .palm), (0x10880, .nbat), (0x1089f, .zzzz),
   (0x108a7, .nbat), (0x108b0, .zzzz), (0x108e0, .hatr), (0x108f3, .zzzz), (0x108f4, .hatr),
   (0x108f6, .zzzz), (0x108fb, .hatr), (0x10900, .phnx), (0x1091c, .zzzz), (0x1091f, .phnx),
   (0x10920, .lydi), (0x1093a, .zzzz), (0x1093f, .lydi), (0x10940, .zzzz), (0x10980, .mero),
   (0x109a0, .merc), (0x109b8, .zzzz), (0x109bc, .merc), (0x109d0, .zzzz), (0x109d2, .merc),
   (0x10a00, .khar), (0x10a04, .zzzz), (0x10a05, .khar), (0x10a07, .zzzz), (0x10a0c, .khar),
   (0x10a14, .zzzz), (0x10a15, .khar), (0x10a18, .zzzz), (0x10a19, .khar), (0x10a36, .zzzz),
   (0x10a38, .khar), (0x10a3b, .zzzz), (0x10a3f, .khar), (0x10a49, .zzzz), (0x10a50, .khar),
   (0x10a59, .zzzz), (0x10a60, .sarb), (0x10a80, .narb), (0x10aa0, .zzzz), (0x10ac0, .mani),
   (0x10ae7, .zzzz), (0x10aeb, .mani), (0x10af7, .zzzz), (0x10b00, .avst), (0x10b36, .zzzz),
   (0x10b39, .avst), (0x10b40, .prti), (0x10b56, .zzzz), (0x10b58, .prti), (0x10b60, .phli),
   (0x10b73, .zzzz), (0x10b78, .phli), (0x10b80, .phlp), (0x10b92, .zzzz), (0x10b99, .phlp),
   (0x10b9d, .zzzz), (0x10ba9, .phlp), (0x10bb0, .zzzz), (0x10c00, .orkh), (0x10c49, .zzzz),
   (0x10c80, .hung), (0x10cb3, .zzzz), (0x10cc0, .hung), (0x10cf3, .zzzz), (0x10cfa, .hung),
   (0x10d00, .rohg), (0x10d28, .zzzz), (0x10d30, .rohg), (0x10d3a, .zzzz), (0x10d40, .gara),
   (0x10d66, .zzzz), (0x10d69, .gara), (0x10d86, .zzzz), (0x10d8e, .gara), (0x10d90, .zzzz),
   (0x10e60, .arab), (0x10e7f, .zzzz), (0x10e80, .yezi), (0x10eaa, .zzzz), (0x10eab, .yezi),
   (0x10eae, .zzzz), (0x10eb0, .yezi), (0x10eb2, .zzzz), (0x10ec2, .arab), (0x10ec5, .zzzz),
   (0x10efc, .arab), (0x10f00, .sogo), (0x10f28, .zzzz), (0x10f30, .sogd), (0x10f5a, .zzzz),
   (0x10f70, .ougr), (0x10f8a, .zzzz), (0x10fb0, .chrs), (0x10fcc, .zzzz), (0x10fe0, .elym),
   (0x10ff7, .zzzz), (0x11000, .brah), (0x1104e, .zzzz), (0x11052, .brah), (0x11076, .zzzz),
   (0x1107f, .brah), (0x11080, .kthi), (0x110c3, .zzzz), (0x110cd, .kthi), (0x110ce, .zzzz),
   (0x110d0, .sora), (0x110e9, .zzzz), (0x110f0, .sora), (0x110fa, .zzzz), (0x11100, .cakm),
   (0x11135, .zzzz), (0x11136, .cakm), (0x11148, .zzzz), (0x11150, .mahj), (0x11177, .zzzz),
   (0x11180, .shrd), (0x111e0, .zzzz), (0x111e1, .sinh), (0x111f5, .zzzz), (0x11200, .khoj),
   (0x11212, .zzzz), (0x11213, .khoj), (0x11242, .zzzz), (0x11280, .mult), (0x11287, .zzzz),
   (0x11288, .mult), (0x11289, .zzzz), (0x1128a, .mult), (0x1128e, .zzzz), (0x1128f, .mult),
   (0x1129e, .zzzz), (0x1129f, .mult), (0x112aa, .zzzz), (0x112b0, .sind), (0x112eb, .zzzz),
   (0x112f0, .sind), (0x112fa, .zzzz), (0x11300, .gran), (0x11304, .zzzz), (0x11305, .gran),
   (0x1130d, .zzzz), (0x1130f, .gran), (0x11311, .zzzz), (0x11313, .gran), (0x11329, .zzzz),
   (0x1132a, .gran), (0x11331, .zzzz), (0x11332, .gran), (0x11334, .zzzz), (0x11335, .gran),
   (0x1133a, .zzzz), (0x1133b, .zinh), (0x1133c, .gran), (0x11345, .zzzz), (0x11347, .gran),
   (0x11349, .zzzz), (0x1134b, .gran), (0x1134e, .zzzz), (0x11350, .gran), (0x11351, .zzzz),
   (0x11357, .gran), (0x11358, .zzzz), (0x1135d, .gran), (0x11364, .zzzz), (0x11366, .gran),
   (0x1136d, .zzzz), (0x11370, .gran), (0x11375, .zzzz), (0x11380, .tutg), (0x1138a, .zzzz),
   (0x1138b, .tutg), (0x1138c, .zzzz), (0x1138e, .tutg), (0x1138f, .zzzz), (0x11390, .tutg),
   (0x113b6, .zzzz), (0x113b7, .tutg), (0x113c1, .zzzz), (0x113c2, .tutg), (0x113c3, .zzzz),
   (0x113c5, .tutg), (0x113c6, .zzzz), (0x113c7, .tutg), (0x113cb, .zzzz), (0x113cc, .tutg),
   (0x113d6, .zzzz), (0x113d7, .tutg), (0x113d9, .zzzz), (0x113e1, .tutg), (0x113e3, .zzzz),
   (0x11400, .newa), (0x1145c, .zzzz), (0x1145d, .newa), (0x11462, .zzzz), (0x11480, .tirh),
   (0x114c8, .zzzz), (0x114d0, .tirh), (0x114da, .zzzz), (0x11580, .sidd), (0x115b6, .zzzz),
   (0x115b8, .sidd), (0x115de, .zzzz), (0x11600, .modi), (0x11645, .zzzz), (0x11650, .modi),
   (0x1165a, .zzzz), (0x11660, .mong), (0x1166d, .zzzz), (0x11680, .takr), (0x116ba, .zzzz),
   (0x116c0, .takr), (0x116ca, .zzzz), (0x116d0, .mymr), (0x116e4, .zzzz), (0x11700, .ahom),
   (0x1171b, .zzzz), (0x1171d, .ahom), (0x1172c, .zzzz), (0x11730, .ahom), (0x11747, .zzzz),
   (0x11800, .dogr), (0x1183c, .zzzz), (0x118a0, .wara), (0x118f3, .zzzz), (0x118ff, .wara),
   (0x11900, .diak), (0x11907, .zzzz), (0x11909, .diak), (0x1190a, .zzzz), (0x1190c, .diak),
   (0x11914, .zzzz), (0x11915, .diak), (0x11917, .zzzz), (0x11918, .diak), (0x11936, .zzzz),
   (0x11937, .diak), (0x11939, .zzzz), (0x1193b, .diak), (0x11947, .zzzz), (0x11950, .diak),
   (0x1195a, .zzzz), (0x119a0, .nand), (0x119a8, .zzzz), (0x119aa, .nand), (0x119d8, .zzzz),
   (0x119da, .nand), (0x119e5, .zzzz), (0x11a00, .zanb), (0x11a48, .zzzz), (0x11a50, .soyo),
   (0x11aa3, .zzzz), (0x11ab0, .cans), (0x11ac0, .pauc), (0x11af9, .zzzz), (0x11b00, .deva),
   (0x11b0a, .zzzz), (0x11bc0, .sunu), (0x11be2, .zzzz), (0x11bf0, .sunu), (0x11bfa, .zzzz),
   (0x11c00, .bhks), (0x11c09, .zzzz), (0x11c0a, .bhks), (0x11c37, .zzzz), (0x11c38, .bhks),
   (0x11c46, .zzzz), (0x11c50, .bhks), (0x11c6d, .zzzz), (0x11c70, .marc), (0x11c90, .zzzz),
   (0x11c92, .marc), (0x11ca8, .zzzz), (0x11ca9, .marc), (0x11cb7, .zzzz), (0x11d00, .gonm),
   (0x11d07, .zzzz), (0x11d08, .gonm), (0x11d0a, .zzzz), (0x11d0b, .gonm), (0x11d37, .zzzz),
   (0x11d3a, .gonm), (0x11d3b, .zzzz), (0x11d3c, .gonm), (0x11d3e, .zzzz), (0x11d3f, .gonm),
   (0x11d48, .zzzz), (0x11d50, .gonm), (0x11d5a, .zzzz), (0x11d60, .gong), (0x11d66, .zzzz),
   (0x11d67, .gong), (0x11d69, .zzzz), (0x11d6a, .gong), (0x11d8f, .zzzz), (0x11d90, .gong),
   (0x11d92, .zzzz), (0x11d93, .gong), (0x11d99, .zzzz), (0x11da0, .gong), (0x11daa, .zzzz),
   (0x11ee0, .maka), (0x11ef9, .zzzz), (0x11f00, .kawi), (0x11f11, .zzzz), (0x11f12, .kawi),
   (0x11f3b, .zzzz), (0x11f3e, .kawi), (0x11f5b, .zzzz), (0x11fb0, .lisu), (0x11fb1, .zzzz),
   (0x11fc0, .taml), (0x11ff2, .zzzz), (0x11fff, .taml), (0x12000, .xsux), (0x1239a, .zzzz),
   (0x12400, .xsux), (0x1246f, .zzzz), (0x12470, .xsux), (0x12475, .zzzz), (0x12480, .xsux),
   (0x12544, .zzzz), (0x12f90, .cpmn), (0x12ff3, .zzzz), (0x13000, .egyp), (0x13456, .zzzz),
   (0x13460, .egyp), (0x143fb, .zzzz), (0x14400, .hluw), (0x14647, .zzzz), (0x16100, .gukh),
   (0x1613a, .zzzz), (0x16800, .bamu), (0x16a39, .zzzz), (0x16a40, .mroo), (0x16a5f, .zzzz),
   (0x16a60, .mroo), (0x16a6a, .zzzz), (0x16a6e, .mroo), (0x16a70, .tnsa), (0x16abf, .zzzz),
   (0x16ac0, .tnsa), (0x16aca, .zzzz), (0x16ad0, .bass), (0x16aee, .zzzz), (0x16af0, .bass),
   (0x16af6, .zzzz), (0x16b00, .hmng), (0x16b46, .zzzz), (0x16b50, .hmng), (0x16b5a, .zzzz),
   (0x16b5b, .hmng), (0x16b62, .zzzz), (0x16b63, .hmng), (0x16b78, .zzzz), (0x16b7d, .hmng),
   (0x16b90, .zzzz), (0x16d40, .krai), (0x16d7a, .zzzz), (0x16e40, .medf), (0x16e9b, .zzzz),
   (0x16f00, .plrd), (0x16f4b, .zzzz), (0x16f4f, .plrd), (0x16f88, .zzzz), (0x16f8f, .plrd),
   (0x16fa0, .zzzz), (0x16fe0, .tang), (0x16fe1, .nshu), (0x16fe2, .hani), (0x16fe4, .kits),
   (0x16fe5, .zzzz), (0x16ff0, .hani), (0x16ff2, .zzzz), (0x17000, .tang), (0x187f8, .zzzz),
   (0x18800, .tang), (0x18b00, .kits), (0x18cd6, .zzzz), (0x18cff, .kits), (0x18d00, .tang),
   (0x18d09, .zzzz), (0x1aff0, .kana), (0x1aff4, .zzzz), (0x1aff5, .kana), (0x1affc, .zzzz),
   (0x1affd, .kana), (0x1afff, .zzzz), (0x1b000, .kana), (0x1b001, .hira), (0x1b120, .kana),
   (0x1b123, .zzzz), (0x1b132, .hira), (0x1b133, .zzzz), (0x1b150, .hira), (0x1b153, .zzzz),
   (0x1b155, .kana), (0x1b156, .zzzz), (0x1b164, .kana), (0x1b168, .zzzz), (0x1b170, .nshu),
   (0x1b2fc, .zzzz), (0x1bc00, .dupl), (0x1bc6b, .zzzz), (0x1bc70, .dupl), (0x1bc7d, .zzzz),
   (0x1bc80, .dupl), (0x1bc89, .zzzz), (0x1bc90, .dupl), (0x1bc9a, .zzzz), (0x1bc9c, .dupl),
   (0x1bca0, .zyyy), (0x1bca4, .zzzz), (0x1cc00, .zyyy), (0x1ccfa, .zzzz), (0x1cd00, .zyyy),
   (0x1ceb4, .zzzz), (0x1cf00, .zinh), (0x1cf2e, .zzzz), (0x1cf30, .zinh), (0x1cf47, .zzzz),
   (0x1cf50, .zyyy), (0x1cfc4, .zzzz), (0x1d000, .zyyy), (0x1d0f6, .zzzz), (0x1d100, .zyyy),
   (0x1d127, .zzzz), (0x1d129, .zyyy), (0x1d167, .zinh), (0x1d16a, .zyyy), (0x1d17b, .zinh),
   (0x1d183, .zyyy), (0x1d185, .zinh), (0x1d18c, .zyyy), (0x1d1aa, .zinh), (0x1d1ae, .zyyy),
   (0x1d1eb, .zzzz), (0x1d200, .grek), (0x1d246, .zzzz), (0x1d2c0, .zyyy), (0x1d2d4, .zzzz),
   (0x1d2e0, .zyyy), (0x1d2f4, .zzzz), (0x1d300, .zyyy), (0x1d357, .zzzz), (0x1d360, .zyyy),
   (0x1d379, .zzzz), (0x1d400, .zyyy), (0x1d455, .zzzz), (0x1d456, .zyyy), (0x1d49d, .zzzz),
   (0x1d49e, .zyyy), (0x1d4a0, .zzzz), (0x1d4a2, .zyyy), (0x1d4a3, .zzzz), (0x1d4a5, .zyyy),
   (0x1d4a7, .zzzz), (0x1d4a9, .zyyy), (0x1d4ad, .zzzz), (0x1d4ae, .zyyy), (0x1d4ba, .zzzz),
   (0x1d4bb, .zyyy), (0x1d4bc, .zzzz), (0x1d4bd, .zyyy), (0x1d4c4, .zzzz), (0x1d4c5, .zyyy),
   (0x1d506, .zzzz), (0x1d507, .zyyy), (0x1d50b, .zzzz), (0x1d50d, .zyyy), (0x1d515, .zzzz),
   (0x1d516, .zyyy), (0x1d51d, .zzzz), (0x1d51e, .zyyy), (0x1d53a, .zzzz), (0x1d53b, .zyyy),
   (0x1d53f, .zzzz), (0x1d540, .zyyy), (0x1d545, .zzzz), (0x1d546, .zyyy), (0x1d547, .zzzz),
   (0x1d54a, .zyyy), (0x1d551, .zzzz), (0x1d552, .zyyy), (0x1d6a6, .zzzz), (0x1d6a8, .zyyy),
   (0x1d7cc, .zzzz), (0x1d7ce, .zyyy), (0x1d800, .sgnw), (0x1da8c, .zzzz), (0x1da9b, .sgnw),
   (0x1daa0, .zzzz), (0x1daa1, .sgnw), (0x1dab0, .zzzz), (0x1df00, .latn), (0x1df1f, .zzzz),
   (0x1df25, .latn), (0x1df2b, .zzzz), (0x1e000, .glag), (0x1e007, .zzzz), (0x1e008, .glag),
   (0x1e019, .zzzz), (0x1e01b, .glag), (0x1e022, .zzzz), (0x1e023, .glag), (0x1e025, .zzzz),
   (0x1e026, .glag), (0x1e02b, .zzzz), (0x1e030, .cyrl), (0x1e06e, .zzzz), (0x1e08f, .cyrl),
   (0x1e090, .zzzz), (0x1e100, .hmnp), (0x1e12d, .zzzz), (0x1e130, .hmnp), (0x1e13e, .zzzz),
   (0x1e140, .hmnp), (0x1e14a, .zzzz), (0x1e14e, .hmnp), (0x1e150, .zzzz), (0x1e290, .toto),
   (0x1e2af, .zzzz), (0x1e2c0, .wcho), (0x1e2fa, .zzzz), (0x1e2ff, .wcho), (0x1e300, .zzzz),
   (0x1e4d0, .nagm), (0x1e4fa, .zzzz), (0x1e5d0, .onao), (0x1e5fb, .zzzz), (0x1e5ff, .onao),
   (0x1e600, .zzzz), (0x1e7e0, .ethi), (0x1e7e7, .zzzz), (0x1e7e8, .ethi), (0x1e7ec, .zzzz),
   (0x1e7ed, .ethi), (0x1e7ef, .zzzz), (0x1e7f0, .ethi), (0x1e7ff, .zzzz), (0x1e800, .mend),
   (0x1e8c5, .zzzz), (0x1e8c7, .mend), (0x1e8d7, .zzzz), (0x1e900, .adlm), (0x1e94c, .zzzz),
   (0x1e950, .adlm), (0x1e95a, .zzzz), (0x1e95e, .adlm), (0x1e960, .zzzz), (0x1ec71, .zyyy),
   (0x1ecb5, .zzzz), (0x1ed01, .zyyy), (0x1ed3e, .zzzz), (0x1ee00, .arab), (0x1ee04, .zzzz),
   (0x1ee05, .arab), (0x1ee20, .zzzz), (0x1ee21, .arab), (0x1ee23, .zzzz), (0x1ee24, .arab),
   (0x1ee25, .zzzz), (0x1ee27, .arab), (0x1ee28, .zzzz), (0x1ee29, .arab), (0x1ee33, .zzzz),
   (0x1ee34, .arab), (0x1ee38, .zzzz), (0x1ee39, .arab), (0x1ee3a, .zzzz), (0x1ee3b, .arab),
   (0x1ee3c, .zzzz), (0x1ee42, .arab), (0x1ee43, .zzzz), (0x1ee47, .arab), (0x1ee48, .zzzz),
   (0x1ee49, .arab), (0x1ee4a, .zzzz), (0x1ee4b, .arab), (0x1ee4c, .zzzz), (0x1ee4d, .arab),
   (0x1ee50, .zzzz), (0x1ee51, .arab), (0x1ee53, .zzzz), (0x1ee54, .arab), (0x1ee55, .zzzz),
   (0x1ee57, .arab), (0x1ee58, .zzzz), (0x1ee59, .arab), (0x1ee5a, .zzzz), (0x1ee5b, .arab),
   (0x1ee5c, .zzzz), (0x1ee5d, .arab), (0x1ee5e, .zzzz), (0x1ee5f, .arab), (0x1ee60, .zzzz),
   (0x1ee61, .arab), (0x1ee63, .zzzz), (0x1ee64, .arab), (0x1ee65, .zzzz), (0x1ee67, .arab),
   (0x1ee6b, .zzzz), (0x1ee6c, .arab), (0x1ee73, .zzzz), (0x1ee74, .arab), (0x1ee78, .zzzz),
   (0x1ee79, .arab), (0x1ee7d, .zzzz), (0x1ee7e, .arab), (0x1ee7f, .zzzz), (0x1ee80, .arab),
   (0x1ee8a, .zzzz), (0x1ee8b, .arab), (0x1ee9c, .zzzz), (0x1eea1, .arab), (0x1eea4, .zzzz),
   (0x1eea5, .arab), (0x1eeaa, .zzzz), (0x1eeab, .arab), (0x1eebc, .zzzz), (0x1eef0, .arab),
   (0x1eef2, .zzzz), (0x1f000, .zyyy), (0x1f02c, .zzzz), (0x1f030, .zyyy), (0x1f094, .zzzz),
   (0x1f0a0, .zyyy), (0x1f0af, .zzzz), (0x1f0b1, .zyyy), (0x1f0c0, .zzzz), (0x1f0c1, .zyyy),
   (0x1f0d0, .zzzz), (0x1f0d1, .zyyy), (0x1f0f6, .zzzz), (0x1f100, .zyyy), (0x1f1ae, .zzzz),
   (0x1f1e6, .zyyy), (0x1f200, .hira), (0x1f201, .zyyy), (0x1f203, .zzzz), (0x1f210, .zyyy),
   (0x1f23c, .zzzz), (0x1f240, .zyyy), (0x1f249, .zzzz), (0x1f250, .zyyy), (0x1f252, .zzzz),
   (0x1f260, .zyyy), (0x1f266, .zzzz), (0x1f300, .zyyy), (0x1f6d8, .zzzz), (0x1f6dc, .zyyy),
   (0x1f6ed, .zzzz), (0x1f6f0, .zyyy), (0x1f6fd, .zzzz), (0x1f700, .zyyy), (0x1f777, .zzzz),
   (0x1f77b, .zyyy), (0x1f7da, .zzzz), (0x1f7e0, .zyyy), (0x1f7ec, .zzzz), (0x1f7f0, .zyyy),
   (0x1f7f1, .zzzz), (0x1f800, .zyyy), (0x1f80c, .zzzz), (0x1f810, .zyyy), (0x1f848, .zzzz),
   (0x1f850, .zyyy), (0x1f85a, .zzzz), (0x1f860, .zyyy), (0x1f888, .zzzz), (0x1f890, .zyyy),
   (0x1f8ae, .zzzz), (0x1f8b0, .zyyy), (0x1f8bc, .zzzz), (0x1f8c0, .zyyy), (0x1f8c2, .zzzz),
   (0x1f900, .zyyy), (0x1fa54, .zzzz), (0x1fa60, .zyyy), (0x1fa6e, .zzzz), (0x1fa70, .zyyy),
   (0x1fa7d, .zzzz), (0x1fa80, .zyyy), (0x1fa8a, .zzzz), (0x1fa8f, .zyyy), (0x1fac7, .zzzz),
   (0x1face, .zyyy), (0x1fadd, .zzzz), (0x1fadf, .zyyy), (0x1faea, .zzzz), (0x1faf0, .zyyy),
   (0x1faf9, .zzzz), (0x1fb00, .zyyy), (0x1fb93, .zzzz), (0x1fb94, .zyyy), (0x1fbfa, .zzzz),
   (0x20000, .hani), (0x2a6e0, .zzzz), (0x2a700, .hani), (0x2b73a, .zzzz), (0x2b740, .hani),
   (0x2b81e, .zzzz), (0x2b820, .hani), (0x2cea2, .zzzz), (0x2ceb0, .hani), (0x2ebe1, .zzzz),
   (0x2ebf0, .hani), (0x2ee5e, .zzzz), (0x2f800, .hani), (0x2fa1e, .zzzz), (0x30000, .hani),
   (0x3134b, .zzzz), (0x31350, .hani), (0x323b0, .zzzz), (0xe0001, .zyyy), (0xe0002, .zzzz),
   (0xe0020, .zyyy), (0xe0080, .zzzz), (0xe0100, .zinh), (0xe01f0, .zzzz)]

end Workings.Text
