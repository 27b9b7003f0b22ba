import ColumnChain.Text.Property

/-!
# Classes of characters

The classes that names and letter case depend on, edition 17 of the Unicode standard:
those of edition 16 with what was added to them.
-/

namespace ColumnChain.Text

/-- The alphabetic characters. -/
def alphabeticRanges : Ranges :=
  (alphabetic ∪ .table AdditionTable.alphabetic).toRanges

/-- The characters of numbers. -/
def numericRanges : Ranges :=
  (categoriesOf ["Nd", "Nl", "No"] ∪ .table AdditionTable.numeric).toRanges

/-- The characters with a letter case. -/
def casedRanges : Ranges :=
  ((cased ∪ .table AdditionTable.uppercase ∪ .table AdditionTable.lowercase) \
    .table AdditionTable.uncased).toRanges

/-- The characters that are passed over when the letter case of a neighbour is looked
for. -/
def caseIgnorableRanges : Ranges :=
  (caseIgnorable ∪ .table AdditionTable.caseIgnorable).toRanges

/-- Whether a character is alphabetic. -/
def isAlphabetic (c : Char) : Bool :=
  if c.toNat < 128 then c.isAlpha else alphabeticRanges.holds c

/-- Whether a character is alphabetic or belongs to numbers. -/
def isAlphanumeric (c : Char) : Bool :=
  if c.toNat < 128 then c.isAlphanum else alphabeticRanges.holds c || numericRanges.holds c

/-- Whether a character has a letter case. -/
def isCased (c : Char) : Bool :=
  casedRanges.holds c

/-- Whether a character is passed over when looking for the neighbouring letter. -/
def isCaseIgnorable (c : Char) : Bool :=
  caseIgnorableRanges.holds c

end ColumnChain.Text
