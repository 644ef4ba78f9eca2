import Workings.Text.Cased
import Workings.Text.CaseIgnorable
import Workings.Text.Diacritic
import Workings.Text.Identifier
import Workings.Text.Mathematical
import Workings.Text.Segmentation

/-!
# Properties of characters

The properties that a character has or does not have. Each is the set of the characters that have it
in version 16 of the character standard.
-/

namespace Workings.Text

/-- A property that a character has or does not have, by the standard's own name. -/
inductive Property where
  | asciiHexDigit
  | alphabetic
  | bidiControl
  | caseIgnorable
  | cased
  | changesWhenCasefolded
  | changesWhenCasemapped
  | changesWhenLowercased
  | changesWhenTitlecased
  | changesWhenUppercased
  | dash
  | defaultIgnorableCodePoint
  | deprecated
  | diacritic
  | emoji
  | emojiComponent
  | emojiModifier
  | emojiModifierBase
  | emojiPresentation
  | extendedPictographic
  | extender
  | graphemeBase
  | graphemeExtend
  | graphemeLink
  | hexDigit
  | hyphen
  | idCompatMathContinue
  | idCompatMathStart
  | idContinue
  | idStart
  | ideographic
  | idsBinaryOperator
  | idsTrinaryOperator
  | idsUnaryOperator
  | joinControl
  | logicalOrderException
  | lowercase
  | math
  | modifierCombiningMark
  | noncharacterCodePoint
  | otherAlphabetic
  | otherDefaultIgnorableCodePoint
  | otherGraphemeExtend
  | otherIdContinue
  | otherIdStart
  | otherLowercase
  | otherMath
  | otherUppercase
  | patternSyntax
  | patternWhiteSpace
  | prependedConcatenationMark
  | quotationMark
  | radical
  | regionalIndicator
  | sentenceTerminal
  | softDotted
  | terminalPunctuation
  | unifiedIdeograph
  | uppercase
  | variationSelector
  | whiteSpace
  | xidContinue
  | xidStart
  deriving DecidableEq, Repr

namespace Property

/-- The letters and the numbers made of letters. -/
def letters : CharSet :=
  .ofCategories [.lu, .ll, .lt, .lm, .lo, .nl]

/-- The characters that have a property. -/
def members : Property → CharSet
  | asciiHexDigit => .ofRanges [(0x30, 0x39), (0x41, 0x46), (0x61, 0x66)]
  | alphabetic => established alphabeticRanges
  | bidiControl => .ofRanges directionControlRanges
  | caseIgnorable => established caseIgnorableRanges
  | cased => established casedRanges
  | changesWhenCasefolded => changesInFolding
  | changesWhenCasemapped => .unions [changesInLowercase, changesInUppercase, changesInTitle]
  | changesWhenLowercased => changesInLowercase
  | changesWhenTitlecased => changesInTitle
  | changesWhenUppercased => changesInUppercase
  | dash => .ofRanges dashRanges
  | defaultIgnorableCodePoint => .ofRanges ignorableRanges
  | deprecated => .ofRanges deprecatedRanges
  | diacritic => .ofRanges diacriticRanges
  | emoji => .ofRanges emojiRanges
  | emojiComponent => .ofRanges emojiComponentRanges
  | emojiModifier => .ofRanges emojiModifierRanges
  | emojiModifierBase => .ofRanges emojiBaseRanges
  | emojiPresentation => .ofRanges emojiPresentationRanges
  | extendedPictographic => .ofRanges pictographRanges
  | extender => .ofRanges extenderRanges
  | graphemeBase =>
    ((CharSet.ofCategories [.cc, .cf, .cn, .co, .zl, .zp]).union
      (established graphemeExtendRanges)).complement
  | graphemeExtend => established graphemeExtendRanges
  | graphemeLink => .ofRanges linkRanges
  | hexDigit => .ofRanges
    [(0x30, 0x39), (0x41, 0x46), (0x61, 0x66), (0xff10, 0xff19), (0xff21, 0xff26), (0xff41, 0xff46)]
  | hyphen => .ofRanges hyphenRanges
  | idCompatMathContinue =>
    (CharSet.ofRanges mathStartRanges).union (.ofRanges mathScriptRanges)
  | idCompatMathStart => .ofRanges mathStartRanges
  | idContinue => nameRest
  | idStart => nameStart
  | ideographic => .ofRanges ideographRanges
  | idsBinaryOperator => .ofRanges binaryDescriptionRanges
  | idsTrinaryOperator => .ofRanges ternaryDescriptionRanges
  | idsUnaryOperator => .ofRanges unaryDescriptionRanges
  | joinControl => .ofRanges joinControlRanges
  | logicalOrderException => .ofRanges logicalOrderExceptionRanges
  | lowercase => Text.lowercase
  | math => mathematical
  | modifierCombiningMark => .ofRanges modifierMarkRanges
  | noncharacterCodePoint => .ofRanges noncharacterRanges
  | otherAlphabetic => (established alphabeticRanges).difference letters
  | otherDefaultIgnorableCodePoint => .ofRanges otherIgnorableRanges
  | otherGraphemeExtend =>
    (established graphemeExtendRanges).difference (.ofCategories [.mn, .me])
  | otherIdContinue => .ofRanges otherNameRestRanges
  | otherIdStart => .ofRanges otherNameStartRanges
  | otherLowercase => .ofRanges otherLowercaseRanges
  | otherMath => .ofRanges otherMathRanges
  | otherUppercase => .ofRanges otherUppercaseRanges
  | patternSyntax => ruleSigns
  | patternWhiteSpace => .ofRanges ruleBlankRanges
  | prependedConcatenationMark => spanningMarks
  | quotationMark => .ofRanges quotationRanges
  | radical => .ofRanges radicalRanges
  | regionalIndicator => .ofRanges regionalIndicatorRanges
  | sentenceTerminal => .ofRanges sentenceEndRanges
  | softDotted => .ofRanges softDottedRanges
  | terminalPunctuation => .ofRanges clauseEndRanges
  | unifiedIdeograph => .ofRanges unifiedIdeographRanges
  | uppercase => Text.uppercase
  | variationSelector => .ofRanges variationSelectorRanges
  | whiteSpace => .ofRanges blankRanges
  | xidContinue => strictNameRest
  | xidStart => strictNameStart

end Property

end Workings.Text
