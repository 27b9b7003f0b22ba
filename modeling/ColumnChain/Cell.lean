import ColumnChain.Number.Reading
import ColumnChain.Number.Writing
import ColumnChain.Text.Blank

/-!
# Cells

A cell of a table is nothing, a truth value, a number or a text. A cell can be read as a
number, whatever its kind, and has one text that is displayed and exported.
-/

namespace ColumnChain

/-- A scalar value of a table. -/
inductive Cell where
  | null
  | bool (value : Bool)
  | number (value : Float)
  | text (value : String)
  deriving DecidableEq, Inhabited

namespace Cell

/-- A numeric cell, in which zero has no sign. -/
def ofNumber (x : Float) : Cell :=
  .number (if x == 0.0 then 0.0 else x)

/-- A numeric cell for a count. -/
def ofCount (n : Nat) : Cell :=
  ofNumber (Float.ofNat n)

/-- The cell of a raw field; an empty field holds nothing. -/
def ofField (field : String) : Cell :=
  if field.isEmpty then .null else .text field

/-- Whether the cell holds nothing. -/
def isNull : Cell → Bool
  | .null => true
  | _ => false

/-- Whether the cell holds nothing or a text of blanks. -/
def isBlank : Cell → Bool
  | .null => true
  | .text value => Text.allBlank value.toList
  | .bool _ | .number _ => false

/-- A finite number, or nothing. -/
def finite? (x : Float) : Option Float :=
  if x.isFinite then some x else none

/-- The number a text denotes: blanks around it and commas within it do not count. -/
def textNumber? (value : String) : Option Float :=
  let digits := (Text.trim value.toList).filter (· ≠ ',')
  (Number.read? digits).bind finite?

/-- The finite number a cell denotes; truth counts as one and falsity as zero. -/
def asNumber? : Cell → Option Float
  | .null => none
  | .bool value => some (if value then 1.0 else 0.0)
  | .number value => finite? value
  | .text value => textNumber? value

/-- The text a cell is displayed and exported as. -/
def toText : Cell → String
  | .null => ""
  | .bool value => if value then "true" else "false"
  | .number value => Number.cellText value
  | .text value => value

/-- Equality of contents: numbers are compared as numbers, so that a number that is not
one differs from itself and the two zeros agree. -/
def same : Cell → Cell → Bool
  | .null, .null => true
  | .bool left, .bool right => left == right
  | .number left, .number right => left == right
  | .text left, .text right => left == right
  | _, _ => false

/-- The text of a cell that holds something. -/
def text? : Cell → Option String
  | .null => none
  | cell => some cell.toText

end Cell
end ColumnChain
