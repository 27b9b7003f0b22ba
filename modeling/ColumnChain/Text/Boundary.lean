import ColumnChain.Text.BreakTable
import ColumnChain.Text.Property
import ColumnChain.Text.ScriptTable

/-!
# Boundaries of text

The classes of characters that decide where a character ends to a reader, where a word
does and where a sentence does, edition 16 of the Unicode standard. Each of the three
divisions leaves a class of other characters, which has no name here.
-/

namespace ColumnChain.Text

/-- The characters of the script with this short name. -/
def script (name : String) : CharSet :=
  match ScriptTable.scripts.find? fun (names, _) => names.head? == some name with
  | some (_, text) => .table text
  | none => .empty

/-- The set of one code. -/
def CharSet.code (code : Nat) : CharSet :=
  .range code code

/-- Korean syllables without a final consonant. -/
def openSyllables : CharSet :=
  .table "AC00-D788/28"

/-- The classes that decide where characters end to a reader, by name. -/
def graphemeBreaks : NamedSets :=
  let joiner := CharSet.code 0x200D
  let extend := graphemeExtend ∪ emojiModifier
  let prepend := prependedConcatenationMark ∪ .table BreakTable.otherPrepend
  [(["CR"], .code 13),
    (["LF"], .code 10),
    (["Control", "CN"],
      (categoriesOf ["Zl", "Zp", "Cc", "Cf"] ∪ (unassigned ∩ defaultIgnorable)) \
        (.ranges [(10, 10), (13, 13)] ∪ extend ∪ joiner ∪ prepend)),
    (["Extend", "EX"], extend),
    (["ZWJ"], joiner),
    (["Regional_Indicator", "RI"], regionalIndicator),
    (["Prepend", "PP"], prepend),
    (["SpacingMark", "SM"],
      (category "Mc" \ (graphemeExtend ∪ .table BreakTable.separateMark)) ∪
        .ranges [(0xE33, 0xE33), (0xEB3, 0xEB3)]),
    (["L"], .table BreakTable.leadingConsonant),
    (["V"], .table BreakTable.vowel),
    (["T"], .table BreakTable.trailingConsonant),
    (["LV"], openSyllables),
    (["LVT"], .range 0xAC00 0xD7A3 \ openSyllables)]

/-- Digits of words, also those that are not decimal digits. -/
def wordNumeric : CharSet :=
  category "Nd" ∪ .table BreakTable.otherNumeric

/-- Characters that extend the one before them within a word. -/
def wordExtend : CharSet :=
  graphemeExtend ∪ category "Mc" ∪ emojiModifier

/-- Characters of Katakana words. -/
def wordKatakana : CharSet :=
  script "Kana" ∪ .table BreakTable.otherKatakana

/-- Hebrew letters. -/
def hebrewLetters : CharSet :=
  script "Hebr" ∩ category "Lo"

/-- The classes that decide where words end, by name. -/
def wordBreaks : NamedSets :=
  [(["CR"], .code 13),
    (["LF"], .code 10),
    (["Newline", "NL"], .ranges [(11, 12), (0x85, 0x85), (0x2028, 0x2029)]),
    (["Extend"], wordExtend),
    (["ZWJ"], .code 0x200D),
    (["Format", "FO"],
      category "Cf" \ (.range 0x200B 0x200D ∪ .code 0x70F ∪ wordNumeric ∪ wordExtend)),
    (["Katakana", "KA"], wordKatakana),
    (["Hebrew_Letter", "HL"], hebrewLetters),
    (["ALetter", "LE"],
      (alphabetic \ (.table PropertyTable.ideographic ∪ script "Hira" ∪ wordKatakana ∪
        wordExtend ∪ hebrewLetters ∪ .table BreakTable.unspacedLetter)) ∪
        .table BreakTable.otherWordLetter),
    (["Single_Quote", "SQ"], .code 0x27),
    (["Double_Quote", "DQ"], .code 0x22),
    (["MidLetter", "ML"], .table PropertyTable.midLetter),
    (["MidNumLet", "MB"], .table PropertyTable.midLetterOrNumber),
    (["MidNum", "MN"], .table BreakTable.midNumber),
    (["Numeric", "NU"], wordNumeric),
    (["ExtendNumLet", "EX"], category "Pc" ∪ .code 0x202F),
    (["Regional_Indicator", "RI"], regionalIndicator),
    (["WSegSpace"], category "Zs" \ .ranges [(0xA0, 0xA0), (0x2007, 0x2007), (0x202F, 0x202F)])]

/-- Characters that extend the one before them within a sentence. -/
def sentenceExtend : CharSet :=
  graphemeExtend ∪ category "Mc" ∪ .code 0x200D

/-- Digits of sentences. -/
def sentenceNumeric : CharSet :=
  wordNumeric ∪ .code 0x66C

/-- Small letters of sentences. Georgian has no difference of case within a sentence. -/
def sentenceLower : CharSet :=
  lowercase \ (sentenceExtend ∪ .ranges [(0x10D0, 0x10FA), (0x10FD, 0x10FF)])

/-- Capital letters of sentences. -/
def sentenceUpper : CharSet :=
  (uppercase ∪ category "Lt") \ .ranges [(0x1C90, 0x1CBA), (0x1CBD, 0x1CBF)]

/-- The classes that decide where sentences end, by name. -/
def sentenceBreaks : NamedSets :=
  let fullStops := CharSet.table BreakTable.ambiguousTerminal
  [(["CR"], .code 13),
    (["LF"], .code 10),
    (["Sep", "SE"], .ranges [(0x85, 0x85), (0x2028, 0x2029)]),
    (["Sp"], whiteSpace \ .ranges [(10, 10), (13, 13), (0x85, 0x85), (0x2028, 0x2029)]),
    (["Extend", "EX"], sentenceExtend),
    (["Format", "FO"], category "Cf" \ (sentenceNumeric ∪ sentenceExtend)),
    (["Lower", "LO"], sentenceLower),
    (["Upper", "UP"], sentenceUpper),
    (["OLetter", "LE"],
      (alphabetic ∪ .code 0x5F3) \ (sentenceLower ∪ sentenceUpper ∪ sentenceExtend)),
    (["Numeric", "NU"], sentenceNumeric),
    (["ATerm", "AT"], fullStops),
    (["STerm", "ST"], sentenceTerminal \ fullStops),
    (["SContinue", "SC"], .table BreakTable.sentenceContinue),
    (["Close", "CL"],
      categoriesOf ["Ps", "Pe", "Pi", "Pf"] ∪ .table BreakTable.otherClose)]

end ColumnChain.Text
