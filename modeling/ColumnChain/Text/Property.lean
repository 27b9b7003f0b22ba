import ColumnChain.Text.AdditionTable
import ColumnChain.Text.CaseTable
import ColumnChain.Text.Category
import ColumnChain.Text.PropertyTable

/-!
# Character properties

The properties that hold or do not hold of a character, edition 16 of the Unicode
standard. Most of them follow from the general category and a short list of exceptions.
-/

namespace ColumnChain.Text

/-- Blanks: separators and the line breaks among the control characters. -/
def whiteSpace : CharSet :=
  .ranges [(9, 13), (0x85, 0x85)] ∪ categoriesOf ["Zs", "Zl", "Zp"]

/-- Capital letters and what counts as such. -/
def uppercase : CharSet :=
  category "Lu" ∪ .table PropertyTable.otherUppercase

/-- Small letters and what counts as such. -/
def lowercase : CharSet :=
  category "Ll" ∪ .table PropertyTable.otherLowercase

/-- Characters with a letter case. -/
def cased : CharSet :=
  uppercase ∪ lowercase ∪ category "Lt"

/-- Letters and what counts as such. -/
def alphabetic : CharSet :=
  letters ∪ lowercase ∪ uppercase ∪ category "Nl" ∪ .table PropertyTable.otherAlphabetic

/-- The joiner and the non-joiner. -/
def joinControl : CharSet :=
  .range 0x200C 0x200D

/-- Characters reserved for the use of formal languages, which no identifier may have. -/
def patternReserved : CharSet :=
  .table PropertyTable.patternSyntax ∪ .table PropertyTable.patternWhiteSpace

/-- Starts of identifiers. -/
def idStart : CharSet :=
  (letters ∪ category "Nl" ∪ .table PropertyTable.otherIdStart) \ patternReserved

/-- Parts of identifiers. -/
def idContinue : CharSet :=
  (idStart ∪ categoriesOf ["Mn", "Mc", "Nd", "Pc"] ∪
    .table PropertyTable.otherIdContinue) \ patternReserved

/-- Characters that extend the one before them. -/
def graphemeExtend : CharSet :=
  categoriesOf ["Me", "Mn"] ∪ .table PropertyTable.otherGraphemeExtend

/-- Characters that stand for themselves. -/
def graphemeBase : CharSet :=
  .complement (categoriesOf ["Cc", "Cf", "Co", "Zl", "Zp"] ∪ unassigned ∪ graphemeExtend)

/-- Signs that span the characters after them. -/
def prependedConcatenationMark : CharSet :=
  .table PropertyTable.prependedConcatenationMark

/-- Characters without a shape of their own. -/
def defaultIgnorable : CharSet :=
  (category "Cf" ∪ .table PropertyTable.otherDefaultIgnorable ∪
    .table PropertyTable.variationSelector) \
    (prependedConcatenationMark ∪ .ranges [(0xFFF9, 0xFFFB), (0x13430, 0x13440)])

/-- Letters whose case was given to them after edition 16. -/
def recased : CharSet :=
  .table AdditionTable.recased

/-- Characters that have a different lower-case form. -/
def changesLowercased : CharSet :=
  (.range 0x41 0x5A ∪ .replaced CaseTable.lowerRuns CaseTable.lowerExpansions) \ recased

/-- Characters that have a different upper-case form. -/
def changesUppercased : CharSet :=
  (.range 0x61 0x7A ∪ .replaced CaseTable.upperRuns CaseTable.upperExpansions) \ recased

/-- Characters that have a different title-case form. Georgian letters have none, and a
title-case letter is its own. -/
def changesTitlecased : CharSet :=
  (changesUppercased \ (category "Lt" ∪ .ranges [(0x10D0, 0x10FA), (0x10FD, 0x10FF)])) ∪
    .ranges [(0x1C4, 0x1C4), (0x1C7, 0x1C7), (0x1CA, 0x1CA), (0x1F1, 0x1F1)]

/-- Characters that case folding changes. Cherokee letters fold to capitals. -/
def changesCasefolded : CharSet :=
  (changesLowercased \ .range 0x13A0 0x13F5) ∪ .table PropertyTable.otherFolded

/-- Punctuation that ends a sentence. -/
def sentenceTerminal : CharSet :=
  .table PropertyTable.sentenceTerminal

/-- Skin tones. -/
def emojiModifier : CharSet :=
  .range 0x1F3FB 0x1F3FF

/-- Letters of which two make a flag. -/
def regionalIndicator : CharSet :=
  .range 0x1F1E6 0x1F1FF

/-- Characters that join letters within a word; an apostrophe does so besides. -/
def midWord : CharSet :=
  .table PropertyTable.midLetter ∪ .table PropertyTable.midLetterOrNumber ∪ .range 0x27 0x27

/-- Characters that are passed over when the letter case of a neighbour is looked for. -/
def caseIgnorable : CharSet :=
  categoriesOf ["Mn", "Me", "Cf", "Lm", "Sk"] ∪ midWord

/-- The ASCII digits of hexadecimal numbers. -/
def asciiHexDigit : CharSet :=
  .ranges [(0x30, 0x39), (0x41, 0x46), (0x61, 0x66)]

/-- The properties by name. -/
def properties : NamedSets :=
  [(["Alphabetic", "Alpha"], alphabetic),
    (["Uppercase", "Upper"], uppercase),
    (["Lowercase", "Lower"], lowercase),
    (["Cased"], cased),
    (["Case_Ignorable", "CI"], caseIgnorable),
    (["Changes_When_Lowercased", "CWL"], changesLowercased),
    (["Changes_When_Uppercased", "CWU"], changesUppercased),
    (["Changes_When_Titlecased", "CWT"], changesTitlecased),
    (["Changes_When_Casefolded", "CWCF"], changesCasefolded),
    (["Changes_When_Casemapped", "CWCM"],
      changesLowercased ∪ changesUppercased ∪ changesTitlecased),
    (["White_Space", "space", "WSpace"], whiteSpace),
    (["Join_Control", "Join_C"], joinControl),
    (["ID_Start", "IDS"], idStart),
    (["ID_Continue", "IDC"], idContinue),
    (["XID_Start", "XIDS"], idStart \ .table PropertyTable.unstableIdStart),
    (["XID_Continue", "XIDC"], idContinue \ .table PropertyTable.unstableIdContinue),
    (["ID_Compat_Math_Start"], .table PropertyTable.idCompatMathStart),
    (["ID_Compat_Math_Continue"], .table PropertyTable.idCompatMathContinue),
    (["Grapheme_Base", "Gr_Base"], graphemeBase),
    (["Grapheme_Extend", "Gr_Ext"], graphemeExtend),
    (["Grapheme_Link", "Gr_Link"], .table PropertyTable.graphemeLink),
    (["Default_Ignorable_Code_Point", "DI"], defaultIgnorable),
    (["Math"], category "Sm" ∪ .table PropertyTable.otherMath),
    (["Dash"], category "Pd" ∪ .table PropertyTable.otherDash),
    (["Hyphen"], .table PropertyTable.hyphen),
    (["Hex_Digit", "Hex"],
      asciiHexDigit ∪ .ranges [(0xFF10, 0xFF19), (0xFF21, 0xFF26), (0xFF41, 0xFF46)]),
    (["ASCII_Hex_Digit", "AHex"], asciiHexDigit),
    (["Quotation_Mark", "QMark"], .table PropertyTable.quotationMark),
    (["Sentence_Terminal", "STerm"], sentenceTerminal),
    (["Terminal_Punctuation", "Term"], sentenceTerminal ∪ .table PropertyTable.otherTerminal),
    (["Diacritic", "Dia"], .table PropertyTable.diacritic),
    (["Extender", "Ext"], .table PropertyTable.extender),
    (["Ideographic", "Ideo"], .table PropertyTable.ideographic),
    (["Unified_Ideograph", "UIdeo"], .table PropertyTable.unifiedIdeograph),
    (["Radical"], .table PropertyTable.radical),
    (["IDS_Unary_Operator", "IDSU"], .range 0x2FFE 0x2FFF),
    (["IDS_Binary_Operator", "IDSB"], .table PropertyTable.idsBinaryOperator),
    (["IDS_Trinary_Operator", "IDST"], .range 0x2FF2 0x2FF3),
    (["Emoji"], .table PropertyTable.emoji),
    (["Emoji_Presentation", "EPres"], .table PropertyTable.emojiPresentation),
    (["Emoji_Modifier", "EMod"], emojiModifier),
    (["Emoji_Modifier_Base", "EBase"], .table PropertyTable.emojiModifierBase),
    (["Emoji_Component", "EComp"], .table PropertyTable.emojiComponent),
    (["Extended_Pictographic", "ExtPict"], .table PropertyTable.extendedPictographic),
    (["Regional_Indicator", "RI"], regionalIndicator),
    (["Bidi_Control", "Bidi_C"], .table PropertyTable.bidiControl),
    (["Bidi_Mirrored", "Bidi_M"], .table PropertyTable.bidiMirrored),
    (["Deprecated", "Dep"], .table PropertyTable.deprecated),
    (["Logical_Order_Exception", "LOE"], .table PropertyTable.logicalOrderException),
    (["Modifier_Combining_Mark", "MCM"], .table PropertyTable.modifierCombiningMark),
    (["Noncharacter_Code_Point", "NChar"], .table PropertyTable.noncharacter),
    (["Pattern_Syntax", "Pat_Syn"], .table PropertyTable.patternSyntax),
    (["Pattern_White_Space", "Pat_WS"], .table PropertyTable.patternWhiteSpace),
    (["Prepended_Concatenation_Mark", "PCM"], prependedConcatenationMark),
    (["Soft_Dotted", "SD"], .table PropertyTable.softDotted),
    (["Variation_Selector", "VS"], .table PropertyTable.variationSelector),
    (["Other_Alphabetic", "OAlpha"], .table PropertyTable.otherAlphabetic),
    (["Other_Lowercase", "OLower"], .table PropertyTable.otherLowercase),
    (["Other_Uppercase", "OUpper"], .table PropertyTable.otherUppercase),
    (["Other_Math", "OMath"], .table PropertyTable.otherMath),
    (["Other_Grapheme_Extend", "OGr_Ext"], .table PropertyTable.otherGraphemeExtend),
    (["Other_ID_Start", "OIDS"], .table PropertyTable.otherIdStart),
    (["Other_ID_Continue", "OIDC"], .table PropertyTable.otherIdContinue),
    (["Other_Default_Ignorable_Code_Point", "ODI"],
      .table PropertyTable.otherDefaultIgnorable)]

end ColumnChain.Text
