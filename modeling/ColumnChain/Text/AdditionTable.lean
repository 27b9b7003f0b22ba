/-!
# Additions

What edition 17 of the Unicode standard adds to the properties of edition 16 that letter
case and names depend on. Codes are hexadecimal.
-/

namespace ColumnChain.Text.AdditionTable

/-- New alphabetic characters. -/
def alphabetic : String :=
  "88F C5C CDC A7CE-A7CF A7D2 A7D4 A7F1 10940-10959 10EC5-10EC7 10EFA-10EFB 11B60-11B67
  11DB0-11DDB 16EA0-16EB8 16EBB-16ED3 16FF2-16FF6 187F8-187FF 18D09-18D1E 18D80-18DF2 1E6C0-1E6DE
  1E6E0-1E6F5 1E6FE-1E6FF 2B73A-2B73F 2CEA2-2CEAD 323B0-33479"

/-- New upper-case characters. -/
def uppercase : String :=
  "A7CE A7D2 A7D4 16EA0-16EB8"

/-- New lower-case characters. -/
def lowercase : String :=
  "A7CF A7F1 16EBB-16ED3"

/-- Characters that are no longer lower-case. -/
def uncased : String :=
  "295"

/-- New characters that are passed over when letter case is decided. -/
def caseIgnorable : String :=
  "1ACF-1ADD 1AE0-1AEB A7F1 10EC5 10EFA-10EFB 11B60 11B62-11B64 11B66 11DD9 16FF2-16FF3 1E6E3
  1E6E6 1E6EE-1E6EF 1E6F5 1E6FF"

/-- Letters that have got a partner of the other case. -/
def recased : String :=
  "A7CE-A7CF A7D2-A7D5 16EA0-16EB8 16EBB-16ED3"

/-- New characters of numbers. -/
def numeric : String :=
  "11DE0-11DE9 16FF4-16FF6"

end ColumnChain.Text.AdditionTable
