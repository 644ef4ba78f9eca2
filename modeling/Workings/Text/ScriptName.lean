import Workings.Text.Script

/-!
# Names of scripts

Scripts are named by their codes and by their long names.
-/

namespace Workings.Text

/-- The codes and the long names of the scripts, without underscores and in small letters, and the
older codes of two of them. -/
def scriptNames : List (String × Script) :=
  [("adlm", .adlm), ("adlam", .adlm), ("aghb", .aghb), ("caucasianalbanian", .aghb),
   ("ahom", .ahom), ("arab", .arab), ("arabic", .arab), ("armi", .armi), ("imperialaramaic", .armi),
   ("armn", .armn), ("armenian", .armn), ("avst", .avst), ("avestan", .avst), ("bali", .bali),
   ("balinese", .bali), ("bamu", .bamu), ("bamum", .bamu), ("bass", .bass), ("bassavah", .bass),
   ("batk", .batk), ("batak", .batk), ("beng", .beng), ("bengali", .beng), ("bhks", .bhks),
   ("bhaiksuki", .bhks), ("bopo", .bopo), ("bopomofo", .bopo), ("brah", .brah), ("brahmi", .brah),
   ("brai", .brai), ("braille", .brai), ("bugi", .bugi), ("buginese", .bugi), ("buhd", .buhd),
   ("buhid", .buhd), ("cakm", .cakm), ("chakma", .cakm), ("cans", .cans),
   ("canadianaboriginal", .cans), ("cari", .cari), ("carian", .cari), ("cham", .cham),
   ("cher", .cher), ("cherokee", .cher), ("chrs", .chrs), ("chorasmian", .chrs), ("copt", .copt),
   ("coptic", .copt), ("qaac", .copt), ("cpmn", .cpmn), ("cyprominoan", .cpmn), ("cprt", .cprt),
   ("cypriot", .cprt), ("cyrl", .cyrl), ("cyrillic", .cyrl), ("deva", .deva), ("devanagari", .deva),
   ("diak", .diak), ("divesakuru", .diak), ("dogr", .dogr), ("dogra", .dogr), ("dsrt", .dsrt),
   ("deseret", .dsrt), ("dupl", .dupl), ("duployan", .dupl), ("egyp", .egyp),
   ("egyptianhieroglyphs", .egyp), ("elba", .elba), ("elbasan", .elba), ("elym", .elym),
   ("elymaic", .elym), ("ethi", .ethi), ("ethiopic", .ethi), ("gara", .gara), ("garay", .gara),
   ("geor", .geor), ("georgian", .geor), ("glag", .glag), ("glagolitic", .glag), ("gong", .gong),
   ("gunjalagondi", .gong), ("gonm", .gonm), ("masaramgondi", .gonm), ("goth", .goth),
   ("gothic", .goth), ("gran", .gran), ("grantha", .gran), ("grek", .grek), ("greek", .grek),
   ("gujr", .gujr), ("gujarati", .gujr), ("gukh", .gukh), ("gurungkhema", .gukh), ("guru", .guru),
   ("gurmukhi", .guru), ("hang", .hang), ("hangul", .hang), ("hani", .hani), ("han", .hani),
   ("hano", .hano), ("hanunoo", .hano), ("hatr", .hatr), ("hatran", .hatr), ("hebr", .hebr),
   ("hebrew", .hebr), ("hira", .hira), ("hiragana", .hira), ("hluw", .hluw),
   ("anatolianhieroglyphs", .hluw), ("hmng", .hmng), ("pahawhhmong", .hmng), ("hmnp", .hmnp),
   ("nyiakengpuachuehmong", .hmnp), ("hung", .hung), ("oldhungarian", .hung), ("ital", .ital),
   ("olditalic", .ital), ("java", .java), ("javanese", .java), ("kali", .kali), ("kayahli", .kali),
   ("kana", .kana), ("katakana", .kana), ("kawi", .kawi), ("khar", .khar), ("kharoshthi", .khar),
   ("khmr", .khmr), ("khmer", .khmr), ("khoj", .khoj), ("khojki", .khoj), ("kits", .kits),
   ("khitansmallscript", .kits), ("knda", .knda), ("kannada", .knda), ("krai", .krai),
   ("kiratrai", .krai), ("kthi", .kthi), ("kaithi", .kthi), ("lana", .lana), ("taitham", .lana),
   ("laoo", .laoo), ("lao", .laoo), ("latn", .latn), ("latin", .latn), ("lepc", .lepc),
   ("lepcha", .lepc), ("limb", .limb), ("limbu", .limb), ("lina", .lina), ("lineara", .lina),
   ("linb", .linb), ("linearb", .linb), ("lisu", .lisu), ("lyci", .lyci), ("lycian", .lyci),
   ("lydi", .lydi), ("lydian", .lydi), ("mahj", .mahj), ("mahajani", .mahj), ("maka", .maka),
   ("makasar", .maka), ("mand", .mand), ("mandaic", .mand), ("mani", .mani), ("manichaean", .mani),
   ("marc", .marc), ("marchen", .marc), ("medf", .medf), ("medefaidrin", .medf), ("mend", .mend),
   ("mendekikakui", .mend), ("merc", .merc), ("meroiticcursive", .merc), ("mero", .mero),
   ("meroitichieroglyphs", .mero), ("mlym", .mlym), ("malayalam", .mlym), ("modi", .modi),
   ("mong", .mong), ("mongolian", .mong), ("mroo", .mroo), ("mro", .mroo), ("mtei", .mtei),
   ("meeteimayek", .mtei), ("mult", .mult), ("multani", .mult), ("mymr", .mymr), ("myanmar", .mymr),
   ("nagm", .nagm), ("nagmundari", .nagm), ("nand", .nand), ("nandinagari", .nand), ("narb", .narb),
   ("oldnortharabian", .narb), ("nbat", .nbat), ("nabataean", .nbat), ("newa", .newa),
   ("nkoo", .nkoo), ("nko", .nkoo), ("nshu", .nshu), ("nushu", .nshu), ("ogam", .ogam),
   ("ogham", .ogam), ("olck", .olck), ("olchiki", .olck), ("onao", .onao), ("olonal", .onao),
   ("orkh", .orkh), ("oldturkic", .orkh), ("orya", .orya), ("oriya", .orya), ("osge", .osge),
   ("osage", .osge), ("osma", .osma), ("osmanya", .osma), ("ougr", .ougr), ("olduyghur", .ougr),
   ("palm", .palm), ("palmyrene", .palm), ("pauc", .pauc), ("paucinhau", .pauc), ("perm", .perm),
   ("oldpermic", .perm), ("phag", .phag), ("phagspa", .phag), ("phli", .phli),
   ("inscriptionalpahlavi", .phli), ("phlp", .phlp), ("psalterpahlavi", .phlp), ("phnx", .phnx),
   ("phoenician", .phnx), ("plrd", .plrd), ("miao", .plrd), ("prti", .prti),
   ("inscriptionalparthian", .prti), ("rjng", .rjng), ("rejang", .rjng), ("rohg", .rohg),
   ("hanifirohingya", .rohg), ("runr", .runr), ("runic", .runr), ("samr", .samr),
   ("samaritan", .samr), ("sarb", .sarb), ("oldsoutharabian", .sarb), ("saur", .saur),
   ("saurashtra", .saur), ("sgnw", .sgnw), ("signwriting", .sgnw), ("shaw", .shaw),
   ("shavian", .shaw), ("shrd", .shrd), ("sharada", .shrd), ("sidd", .sidd), ("siddham", .sidd),
   ("sind", .sind), ("khudawadi", .sind), ("sinh", .sinh), ("sinhala", .sinh), ("sogd", .sogd),
   ("sogdian", .sogd), ("sogo", .sogo), ("oldsogdian", .sogo), ("sora", .sora),
   ("sorasompeng", .sora), ("soyo", .soyo), ("soyombo", .soyo), ("sund", .sund),
   ("sundanese", .sund), ("sunu", .sunu), ("sunuwar", .sunu), ("sylo", .sylo),
   ("sylotinagri", .sylo), ("syrc", .syrc), ("syriac", .syrc), ("tagb", .tagb), ("tagbanwa", .tagb),
   ("takr", .takr), ("takri", .takr), ("tale", .tale), ("taile", .tale), ("talu", .talu),
   ("newtailue", .talu), ("taml", .taml), ("tamil", .taml), ("tang", .tang), ("tangut", .tang),
   ("tavt", .tavt), ("taiviet", .tavt), ("telu", .telu), ("telugu", .telu), ("tfng", .tfng),
   ("tifinagh", .tfng), ("tglg", .tglg), ("tagalog", .tglg), ("thaa", .thaa), ("thaana", .thaa),
   ("thai", .thai), ("tibt", .tibt), ("tibetan", .tibt), ("tirh", .tirh), ("tirhuta", .tirh),
   ("tnsa", .tnsa), ("tangsa", .tnsa), ("todr", .todr), ("todhri", .todr), ("toto", .toto),
   ("tutg", .tutg), ("tulutigalari", .tutg), ("ugar", .ugar), ("ugaritic", .ugar), ("vaii", .vaii),
   ("vai", .vaii), ("vith", .vith), ("vithkuqi", .vith), ("wara", .wara), ("warangciti", .wara),
   ("wcho", .wcho), ("wancho", .wcho), ("xpeo", .xpeo), ("oldpersian", .xpeo), ("xsux", .xsux),
   ("cuneiform", .xsux), ("yezi", .yezi), ("yezidi", .yezi), ("yiii", .yiii), ("yi", .yiii),
   ("zanb", .zanb), ("zanabazarsquare", .zanb), ("zinh", .zinh), ("inherited", .zinh),
   ("qaai", .zinh), ("zyyy", .zyyy), ("common", .zyyy)]

/-- The script with the given name. -/
def Script.ofName? (name : String) : Option Script :=
  scriptNames.lookup name

end Workings.Text
