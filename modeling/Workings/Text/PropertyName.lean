import Workings.Text.Age
import Workings.Text.Property
import Workings.Text.ScriptName

/-!
# Names of properties

Sets of characters are called by the names of properties, categories, scripts and other values of
properties. Case, blanks, underscores and hyphens make no difference in a name.
-/

namespace Workings.Text

/-- The names of the properties, without underscores and in small letters. -/
def propertyNames : List (String × Property) :=
  [("asciihexdigit", .asciiHexDigit), ("ahex", .asciiHexDigit), ("alphabetic", .alphabetic),
   ("alpha", .alphabetic), ("bidicontrol", .bidiControl), ("bidic", .bidiControl),
   ("caseignorable", .caseIgnorable), ("ci", .caseIgnorable), ("cased", .cased),
   ("changeswhencasefolded", .changesWhenCasefolded), ("cwcf", .changesWhenCasefolded),
   ("changeswhencasemapped", .changesWhenCasemapped), ("cwcm", .changesWhenCasemapped),
   ("changeswhenlowercased", .changesWhenLowercased), ("cwl", .changesWhenLowercased),
   ("changeswhentitlecased", .changesWhenTitlecased), ("cwt", .changesWhenTitlecased),
   ("changeswhenuppercased", .changesWhenUppercased), ("cwu", .changesWhenUppercased),
   ("dash", .dash), ("defaultignorablecodepoint", .defaultIgnorableCodePoint),
   ("di", .defaultIgnorableCodePoint), ("deprecated", .deprecated), ("dep", .deprecated),
   ("diacritic", .diacritic), ("dia", .diacritic), ("emoji", .emoji),
   ("emojicomponent", .emojiComponent), ("ecomp", .emojiComponent),
   ("emojimodifier", .emojiModifier), ("emod", .emojiModifier),
   ("emojimodifierbase", .emojiModifierBase), ("ebase", .emojiModifierBase),
   ("emojipresentation", .emojiPresentation), ("epres", .emojiPresentation),
   ("extendedpictographic", .extendedPictographic), ("extpict", .extendedPictographic),
   ("extender", .extender), ("ext", .extender), ("graphemebase", .graphemeBase),
   ("grbase", .graphemeBase), ("graphemeextend", .graphemeExtend), ("grext", .graphemeExtend),
   ("graphemelink", .graphemeLink), ("grlink", .graphemeLink), ("hexdigit", .hexDigit),
   ("hex", .hexDigit), ("hyphen", .hyphen), ("idcompatmathcontinue", .idCompatMathContinue),
   ("idcompatmathstart", .idCompatMathStart), ("idcontinue", .idContinue), ("idc", .idContinue),
   ("idstart", .idStart), ("ids", .idStart), ("ideographic", .ideographic), ("ideo", .ideographic),
   ("idsbinaryoperator", .idsBinaryOperator), ("idsb", .idsBinaryOperator),
   ("idstrinaryoperator", .idsTrinaryOperator), ("idst", .idsTrinaryOperator),
   ("idsunaryoperator", .idsUnaryOperator), ("idsu", .idsUnaryOperator),
   ("joincontrol", .joinControl), ("joinc", .joinControl),
   ("logicalorderexception", .logicalOrderException), ("loe", .logicalOrderException),
   ("lowercase", .lowercase), ("lower", .lowercase), ("math", .math),
   ("modifiercombiningmark", .modifierCombiningMark), ("mcm", .modifierCombiningMark),
   ("noncharactercodepoint", .noncharacterCodePoint), ("nchar", .noncharacterCodePoint),
   ("otheralphabetic", .otherAlphabetic), ("oalpha", .otherAlphabetic),
   ("otherdefaultignorablecodepoint", .otherDefaultIgnorableCodePoint),
   ("odi", .otherDefaultIgnorableCodePoint), ("othergraphemeextend", .otherGraphemeExtend),
   ("ogrext", .otherGraphemeExtend), ("otheridcontinue", .otherIdContinue),
   ("oidc", .otherIdContinue), ("otheridstart", .otherIdStart), ("oids", .otherIdStart),
   ("otherlowercase", .otherLowercase), ("olower", .otherLowercase), ("othermath", .otherMath),
   ("omath", .otherMath), ("otheruppercase", .otherUppercase), ("oupper", .otherUppercase),
   ("patternsyntax", .patternSyntax), ("patsyn", .patternSyntax),
   ("patternwhitespace", .patternWhiteSpace), ("patws", .patternWhiteSpace),
   ("prependedconcatenationmark", .prependedConcatenationMark),
   ("pcm", .prependedConcatenationMark), ("quotationmark", .quotationMark),
   ("qmark", .quotationMark), ("radical", .radical), ("regionalindicator", .regionalIndicator),
   ("ri", .regionalIndicator), ("sentenceterminal", .sentenceTerminal),
   ("sterm", .sentenceTerminal), ("softdotted", .softDotted), ("sd", .softDotted),
   ("terminalpunctuation", .terminalPunctuation), ("term", .terminalPunctuation),
   ("unifiedideograph", .unifiedIdeograph), ("uideo", .unifiedIdeograph), ("uppercase", .uppercase),
   ("upper", .uppercase), ("variationselector", .variationSelector), ("vs", .variationSelector),
   ("whitespace", .whiteSpace), ("wspace", .whiteSpace), ("space", .whiteSpace),
   ("xidcontinue", .xidContinue), ("xidc", .xidContinue), ("xidstart", .xidStart),
   ("xids", .xidStart)]

/-- The property with the given name. -/
def Property.ofName? (name : String) : Option Property :=
  propertyNames.lookup name

/-- The names of the categories and of groups of categories. Code points that can stand for no
character have no category of their own here. -/
def categoryNames : List (List String × List Category) :=
  [(["c", "other"], [.cc, .cf, .cn, .co]), (["cc", "control", "cntrl"], [.cc]),
   (["cf", "format"], [.cf]), (["cn", "unassigned"], [.cn]), (["co", "privateuse"], [.co]),
   (["l", "letter"], [.lu, .ll, .lt, .lm, .lo]), (["lc", "casedletter"], [.lu, .ll, .lt]),
   (["ll", "lowercaseletter"], [.ll]), (["lm", "modifierletter"], [.lm]),
   (["lo", "otherletter"], [.lo]), (["lt", "titlecaseletter"], [.lt]),
   (["lu", "uppercaseletter"], [.lu]), (["m", "mark", "combiningmark"], [.mn, .mc, .me]),
   (["mc", "spacingmark"], [.mc]), (["me", "enclosingmark"], [.me]),
   (["mn", "nonspacingmark"], [.mn]), (["n", "number"], [.nd, .nl, .no]),
   (["nd", "decimalnumber", "digit"], [.nd]), (["nl", "letternumber"], [.nl]),
   (["no", "othernumber"], [.no]),
   (["p", "punctuation", "punct"], [.pc, .pd, .ps, .pe, .pi, .pf, .po]),
   (["pc", "connectorpunctuation"], [.pc]), (["pd", "dashpunctuation"], [.pd]),
   (["pe", "closepunctuation"], [.pe]), (["pf", "finalpunctuation"], [.pf]),
   (["pi", "initialpunctuation"], [.pi]), (["po", "otherpunctuation"], [.po]),
   (["ps", "openpunctuation"], [.ps]), (["s", "symbol"], [.sm, .sc, .sk, .so]),
   (["sc", "currencysymbol"], [.sc]), (["sk", "modifiersymbol"], [.sk]),
   (["sm", "mathsymbol"], [.sm]), (["so", "othersymbol"], [.so]),
   (["z", "separator"], [.zs, .zl, .zp]), (["zl", "lineseparator"], [.zl]),
   (["zp", "paragraphseparator"], [.zp]), (["zs", "spaceseparator"], [.zs])]

/-- The characters of the category, or of the group of categories, with the given name. -/
def categoryMembers? (name : String) : Option CharSet :=
  match name with
  | "any" => some .all
  | "assigned" => some (CharSet.ofCategories [.cn]).complement
  | "ascii" => some (.range '\x00' '\x7f')
  | _ => (categoryNames.find? fun (names, _) => names.contains name).map fun (_, categories) =>
    .ofCategories categories

/-- The form of a name in which names are compared: blanks, underscores, hyphens and all that is not
plain are left out, and letters are small. A prefix that says `is` is dropped, unless only the
letter `c` follows. -/
def plainName (name : List Char) : String :=
  let plain (chars : List Char) : List Char :=
    (chars.filter fun char =>
      char.toNat < 0x80 && char ≠ ' ' && char ≠ '_' && char ≠ '-').map Char.toLower
  match name with
  | first :: second :: rest =>
    if first.toLower = 'i' ∧ second.toLower = 's' then
      let rest := plain rest
      if rest = ['c'] then "isc" else String.ofList rest
    else String.ofList (plain name)
  | _ => String.ofList (plain name)

/-- The characters meant by a single name: that of a property, a category or a script. Three names
of properties with other values are read as names of categories. -/
def namedMembers? (name : List Char) : Option CharSet :=
  let name := plainName name
  let property := if name = "cf" ∨ name = "sc" ∨ name = "lc" then none else Property.ofName? name
  (property.map Property.members).orElse fun _ =>
    (categoryMembers? name).orElse fun _ => (Script.ofName? name).map Script.members

/-- The characters with a value of a property, both given by name. -/
def valuedMembers? (name value : List Char) : Option CharSet :=
  let value := plainName value
  match plainName name with
  | "gc" | "generalcategory" => categoryMembers? value
  | "sc" | "script" => (Script.ofName? value).map Script.members
  | "scx" | "scriptextensions" => (Script.ofName? value).map Script.users
  | "age" => (Version.ofName? value).map Version.members
  | "gcb" | "graphemeclusterbreak" => graphemeBreaks.members? value
  | "wb" | "wordbreak" => wordBreaks.members? value
  | "sb" | "sentencebreak" => sentenceBreaks.members? value
  | _ => none

end Workings.Text
