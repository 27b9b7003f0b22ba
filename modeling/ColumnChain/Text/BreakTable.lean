/-!
# Boundaries of text

Ranges of the Unicode properties, edition 16, that say where characters, words and
sentences end, as far as they do not follow from others. Codes are hexadecimal.
-/

namespace ColumnChain.Text.BreakTable

/-- Letters and vowel signs that belong to the character after them. -/
def otherPrepend : String :=
  "D4E 111C2-111C3 113D1 1193F 11941 11A3A 11A84-11A89 11D46 11F02"

/-- Spacing marks that are characters of their own to a reader. -/
def separateMark : String :=
  "102B-102C 1038 1062-1064 1067-106D 1083 1087-108C 108F 109A-109C 1A61 1A63-1A64 AA7B AA7D
  11720-11721"

/-- Consonants that start a Korean syllable. -/
def leadingConsonant : String :=
  "1100-115F A960-A97C"

/-- Vowels of a Korean syllable. -/
def vowel : String :=
  "1160-11A7 D7B0-D7C6 16D63 16D67-16D6A"

/-- Consonants that end a Korean syllable. -/
def trailingConsonant : String :=
  "11A8-11FF D7CB-D7FB"

/-- Characters that words in Katakana share with others. -/
def otherKatakana : String :=
  "3031-3035 309B-309C 30A0 30FC FF70"

/-- Characters that act as letters of words without being alphabetic. -/
def otherWordLetter : String :=
  "2C2-2C5 2D2-2D7 2DE-2DF 2E5-2EB 2ED 2EF-2FF 55A-55C 55E 58A 5F3 70F A708-A716 A720-A721
  A789-A78A AB5B"

/-- Letters of scripts that do not set words apart. -/
def unspacedLetter : String :=
  "E01-E30 E32-E33 E40-E46 E81-E82 E84 E86-E8A E8C-EA3 EA5 EA7-EB0 EB2-EB3 EBD EC0-EC4 EC6 EDC-EDF
  1000-102A 103F 1050-1055 105A-105D 1061 1065-1066 106E-1070 1075-1081 108E 1780-17B3 17D7 17DC
  1950-196D 1970-1974 1980-19AB 19B0-19C9 1A20-1A54 1AA7 A9E0-A9E4 A9E6-A9EF A9FA-A9FE AA60-AA76
  AA7A AA7E-AAAF AAB1 AAB5-AAB6 AAB9-AABD AAC0 AAC2 AADB-AADD 11700-1171A 11740-11746"

/-- Characters that join digits. -/
def midNumber : String :=
  "2C 3B 37E 589 60C-60D 66C 7F8 2044 FE50 FE54 FF0C FF1B"

/-- Characters that act as digits of words without being decimal digits. -/
def otherNumeric : String :=
  "600-605 66B 6DD 890-891 8E2 19DA 110BD 110CD"

/-- Characters that show that a sentence goes on. -/
def sentenceContinue : String :=
  "2C-2D 3A-3B 37E 55D 60C-60D 7F8 1802 1808 2013-2014 3001 FE10-FE11 FE13-FE14 FE31-FE32
  FE50-FE51 FE54-FE55 FE58 FE63 FF0C-FF0D FF1A-FF1B FF64"

/-- Characters that close a sentence without being brackets or quotes by category. -/
def otherClose : String :=
  "22 27 275B-2760 2E00-2E01 2E06-2E08 2E0B 1F676-1F678"

/-- Full stops, which may also belong to a number or an abbreviation. -/
def ambiguousTerminal : String :=
  "2E 2024 FE52 FF0E"

end ColumnChain.Text.BreakTable
