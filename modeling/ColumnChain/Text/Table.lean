/-!
# Compact tables

Reading the tables of character data: entries with blanks between them, made of
hexadecimal codes and decimal numbers. The tables are constants, so an entry that does
not have the expected form is dropped.
-/

namespace ColumnChain.Text

/-- The value of a hexadecimal digit. -/
def hexDigit? (c : Char) : Option Nat :=
  if c.isDigit then some (c.toNat - '0'.toNat)
  else if 'a' ≤ c && c ≤ 'f' then some (c.toNat - 'a'.toNat + 10)
  else if 'A' ≤ c && c ≤ 'F' then some (c.toNat - 'A'.toNat + 10)
  else none

/-- The number written by hexadecimal digits. -/
def hexadecimal? (text : List Char) : Option Nat :=
  if text.isEmpty then none
  else text.foldl (fun value c =>
    value.bind fun n => (hexDigit? c).map fun digit => 16 * n + digit) (some 0)

/-- The number written by the decimal digits of an entry. -/
def decimal (digits : List Char) : Nat :=
  digits.foldl (fun value c => 10 * value + (c.toNat - '0'.toNat)) 0

/-- The pieces between the occurrences of a character. -/
def pieces (separator : Char) : List Char → List (List Char)
  | [] => [[]]
  | c :: rest =>
      if c = separator then [] :: pieces separator rest
      else match pieces separator rest with
        | [] => [[c]]
        | piece :: others => (c :: piece) :: others

/-- The entries of a table, with spaces and line breaks between them. -/
def tableEntries (table : String) : List (List Char) :=
  pieces ' ' (table.toList.map fun c => if c = '\n' then ' ' else c)

end ColumnChain.Text
