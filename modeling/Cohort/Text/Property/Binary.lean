import Cohort.Text.Property.Breaks
import Cohort.Text.Property.Case

/-! Properties that a character either has or has not. -/
namespace Cohort.Text

/-- The properties without further values. -/
inductive BinaryProperty where
  | alphabetic | lowercase | uppercase | whiteSpace
  | cased | caseIgnorable | changesWhenLowercased | changesWhenUppercased | changesWhenTitlecased
  | changesWhenCasefolded | changesWhenCasemapped | softDotted
  | asciiHexDigit | hexDigit
  | bidiControl | bidiMirrored | joinControl
  | graphemeBase | graphemeExtend | graphemeLink | diacritic | extender | modifierCombiningMark
  | prependedConcatenationMark | variationSelector | regionalIndicator
  | defaultIgnorable | logicalOrderException | deprecated | noncharacter
  | dash | hyphen | quotationMark | terminalPunctuation | sentenceTerminal | math
  | emoji | emojiPresentation | emojiModifier | emojiModifierBase | emojiComponent
  | extendedPictographic
  | ideographic | unifiedIdeograph | radical | idsBinaryOperator | idsTrinaryOperator
  | idsUnaryOperator
  | idStart | idContinue | xidStart | xidContinue | idCompatMathStart | idCompatMathContinue
  | patternSign | patternBlank
  | otherAlphabetic | otherDefaultIgnorable | otherGraphemeExtend | otherIdStart | otherIdContinue
  | otherLowercase | otherUppercase | otherMath
  deriving DecidableEq, Repr

namespace BinaryProperty
open Edition16

def holds : BinaryProperty → Char → Bool
  | .alphabetic => Edition16.isAlphabetic
  | .lowercase => isLowercase
  | .uppercase => isUppercase
  | .whiteSpace => isBlank
  | .cased => isCased
  | .caseIgnorable => isCaseIgnorable
  | .changesWhenLowercased => Edition16.changesWhenLowercased
  | .changesWhenUppercased => Edition16.changesWhenUppercased
  | .changesWhenTitlecased => Edition16.changesWhenTitlecased
  | .changesWhenCasefolded => Edition16.changesWhenCasefolded
  | .changesWhenCasemapped => Edition16.changesWhenCasemapped
  | .softDotted => isSoftDotted
  | .asciiHexDigit => fun c => (hexDigit? c).isSome
  | .hexDigit => isHexDigit
  | .bidiControl => isBidiControl
  | .bidiMirrored => isBidiMirrored
  | .joinControl => isJoinControl
  | .graphemeBase => isGraphemeBase
  | .graphemeExtend => Edition16.isGraphemeExtend
  | .graphemeLink => isGraphemeLink
  | .diacritic => isDiacritic
  | .extender => isExtender
  | .modifierCombiningMark => isModifierCombiningMark
  | .prependedConcatenationMark => isPrependedConcatenationMark
  | .variationSelector => isVariationSelector
  | .regionalIndicator => isRegionalIndicator
  | .defaultIgnorable => isDefaultIgnorable
  | .logicalOrderException => isLogicalOrderException
  | .deprecated => isDeprecated
  | .noncharacter => isNoncharacter
  | .dash => isDash
  | .hyphen => isHyphen
  | .quotationMark => isQuotationMark
  | .terminalPunctuation => isTerminalPunctuation
  | .sentenceTerminal => isSentenceTerminal
  | .math => isMath
  | .emoji => isEmoji
  | .emojiPresentation => isEmojiPresentation
  | .emojiModifier => isEmojiModifier
  | .emojiModifierBase => isEmojiModifierBase
  | .emojiComponent => isEmojiComponent
  | .extendedPictographic => isExtendedPictographic
  | .ideographic => isIdeographic
  | .unifiedIdeograph => isUnifiedIdeograph
  | .radical => isRadical
  | .idsBinaryOperator => isIdsBinaryOperator
  | .idsTrinaryOperator => isIdsTrinaryOperator
  | .idsUnaryOperator => isIdsUnaryOperator
  | .idStart => isIdStart
  | .idContinue => isIdContinue
  | .xidStart => isXidStart
  | .xidContinue => isXidContinue
  | .idCompatMathStart => isIdCompatMathStart
  | .idCompatMathContinue => isIdCompatMathContinue
  | .patternSign => isPatternSign
  | .patternBlank => isPatternBlank
  | .otherAlphabetic => isOtherAlphabetic
  | .otherDefaultIgnorable => isOtherDefaultIgnorable
  | .otherGraphemeExtend => isOtherGraphemeExtend
  | .otherIdStart => isOtherIdStart
  | .otherIdContinue => isOtherIdContinue
  | .otherLowercase => fun c => Edition16.otherLowercase.contains c.toNat
  | .otherUppercase => fun c => Edition16.otherUppercase.contains c.toNat
  | .otherMath => isOtherMath

/-- Every property with its names, without signs and in lower case, the full name first. -/
def names : List (BinaryProperty × List String) :=
  [(.alphabetic, ["alphabetic", "alpha"]), (.lowercase, ["lowercase", "lower"]),
    (.uppercase, ["uppercase", "upper"]), (.whiteSpace, ["whitespace", "space", "wspace"]),
    (.cased, ["cased"]), (.caseIgnorable, ["caseignorable", "ci"]),
    (.changesWhenLowercased, ["changeswhenlowercased", "cwl"]),
    (.changesWhenUppercased, ["changeswhenuppercased", "cwu"]),
    (.changesWhenTitlecased, ["changeswhentitlecased", "cwt"]),
    (.changesWhenCasefolded, ["changeswhencasefolded", "cwcf"]),
    (.changesWhenCasemapped, ["changeswhencasemapped", "cwcm"]),
    (.softDotted, ["softdotted", "sd"]), (.asciiHexDigit, ["asciihexdigit", "ahex"]),
    (.hexDigit, ["hexdigit", "hex"]), (.bidiControl, ["bidicontrol", "bidic"]),
    (.bidiMirrored, ["bidimirrored", "bidim"]), (.joinControl, ["joincontrol", "joinc"]),
    (.graphemeBase, ["graphemebase", "grbase"]), (.graphemeExtend, ["graphemeextend", "grext"]),
    (.graphemeLink, ["graphemelink", "grlink"]), (.diacritic, ["diacritic", "dia"]),
    (.extender, ["extender", "ext"]),
    (.modifierCombiningMark, ["modifiercombiningmark", "mcm"]),
    (.prependedConcatenationMark, ["prependedconcatenationmark", "pcm"]),
    (.variationSelector, ["variationselector", "vs"]),
    (.regionalIndicator, ["regionalindicator", "ri"]),
    (.defaultIgnorable, ["defaultignorablecodepoint", "di"]),
    (.logicalOrderException, ["logicalorderexception", "loe"]),
    (.deprecated, ["deprecated", "dep"]), (.noncharacter, ["noncharactercodepoint", "nchar"]),
    (.dash, ["dash"]), (.hyphen, ["hyphen"]), (.quotationMark, ["quotationmark", "qmark"]),
    (.terminalPunctuation, ["terminalpunctuation", "term"]),
    (.sentenceTerminal, ["sentenceterminal", "sterm"]), (.math, ["math"]), (.emoji, ["emoji"]),
    (.emojiPresentation, ["emojipresentation", "epres"]),
    (.emojiModifier, ["emojimodifier", "emod"]),
    (.emojiModifierBase, ["emojimodifierbase", "ebase"]),
    (.emojiComponent, ["emojicomponent", "ecomp"]),
    (.extendedPictographic, ["extendedpictographic", "extpict"]),
    (.ideographic, ["ideographic", "ideo"]), (.unifiedIdeograph, ["unifiedideograph", "uideo"]),
    (.radical, ["radical"]), (.idsBinaryOperator, ["idsbinaryoperator", "idsb"]),
    (.idsTrinaryOperator, ["idstrinaryoperator", "idst"]),
    (.idsUnaryOperator, ["idsunaryoperator", "idsu"]), (.idStart, ["idstart", "ids"]),
    (.idContinue, ["idcontinue", "idc"]), (.xidStart, ["xidstart", "xids"]),
    (.xidContinue, ["xidcontinue", "xidc"]), (.idCompatMathStart, ["idcompatmathstart"]),
    (.idCompatMathContinue, ["idcompatmathcontinue"]),
    (.patternSign, ["patternsyntax", "patsyn"]), (.patternBlank, ["patternwhitespace", "patws"]),
    (.otherAlphabetic, ["otheralphabetic", "oalpha"]),
    (.otherDefaultIgnorable, ["otherdefaultignorablecodepoint", "odi"]),
    (.otherGraphemeExtend, ["othergraphemeextend", "ogrext"]),
    (.otherIdStart, ["otheridstart", "oids"]), (.otherIdContinue, ["otheridcontinue", "oidc"]),
    (.otherLowercase, ["otherlowercase", "olower"]),
    (.otherUppercase, ["otheruppercase", "oupper"]), (.otherMath, ["othermath", "omath"])]

/-- The property with a name, written without signs and in lower case. -/
def ofName? (name : String) : Option BinaryProperty :=
  (names.find? fun entry => entry.2.contains name).map (·.1)

end BinaryProperty

end Cohort.Text
