import ColumnChain.Calendar.Layout
import ColumnChain.Cell
import ColumnChain.Text.Casing

/-!
# Column types

The type of a column is the narrowest one that every cell fits. Blank cells fit every
type. A truth value fits only truth values; a number fits numbers, and integers if it is
one; a text fits whatever it can be read as. Every cell can be seen as text.
-/

namespace ColumnChain

/-- The type of a column. -/
inductive ColumnType where
  | integer
  | float
  | boolean
  | date
  | text
  /-- Nothing but blank cells. -/
  | unknown
  deriving DecidableEq, Inhabited

namespace ColumnType

/-- The name under which a type is recorded and shown. -/
def label : ColumnType → String
  | integer => "integer"
  | float => "float"
  | boolean => "boolean"
  | date => "date"
  | text => "string"
  | unknown => "unknown"

/-- Every type. -/
def all : List ColumnType :=
  [integer, float, boolean, date, text, unknown]

/-- The type with a name. -/
def ofLabel? (name : String) : Option ColumnType :=
  all.find? fun type => type.label == name

/-- Whether cells of the type are numbers. -/
def isNumeric : ColumnType → Bool
  | integer | float => true
  | boolean | date | text | unknown => false

/-- Which narrow types the cells looked at so far all fit. -/
structure Evidence where
  boolean : Bool
  integer : Bool
  float : Bool
  date : Bool

/-- Whether a text is a truth value. -/
def readsAsBoolean (text : List Char) : Bool :=
  Text.equalIgnoringAsciiCase text "true".toList ||
    Text.equalIgnoringAsciiCase text "false".toList

/-- Take one more cell, which is not blank, into account. -/
def Evidence.observe (seen : Evidence) : Cell → Evidence
  | .null => seen
  | .bool _ => { seen with integer := false, float := false, date := false }
  | .number value =>
      { seen with boolean := false, date := false
                  integer := seen.integer && Number.isWhole value }
  | .text value =>
      let text := Text.trim value.toList
      { boolean := seen.boolean && readsAsBoolean text
        integer := seen.integer && (Number.int64? text).isSome
        float := seen.float && (Number.read? text).isSome
        date := seen.date && (Calendar.readDate? text).isSome }

/-- The narrowest type for which there is evidence. -/
def ofEvidence (seen : Evidence) : ColumnType :=
  if seen.boolean then boolean
  else if seen.integer then integer
  else if seen.float then float
  else if seen.date then date
  else text

/-- The type of a column of cells. -/
def infer (cells : List Cell) : ColumnType :=
  match cells.filter fun cell => !cell.isBlank with
  | [] => unknown
  | filled => ofEvidence (filled.foldl Evidence.observe ⟨true, true, true, true⟩)

/-- A text cell as a number, if the number is displayed as just this text. -/
def toNumber? (text : List Char) : Option Cell :=
  (Number.read? text).bind fun x =>
    if (Number.cellText x).toList = text then some (Cell.ofNumber x) else none

/-- A text cell as a truth value. -/
def toBoolean? (text : List Char) : Option Cell :=
  let word := String.ofList (Text.lower text)
  if word = "true" then some (.bool true)
  else if word = "false" then some (.bool false)
  else none

/-- A text cell as a cell of the type, where nothing is lost by it; any other cell stays
as it is. -/
def coerce (type : ColumnType) (cell : Cell) : Cell :=
  match cell with
  | .text value =>
      let text := Text.trim value.toList
      match type with
      | integer | float => (toNumber? text).getD cell
      | boolean => (toBoolean? text).getD cell
      | date | .text | unknown => cell
  | .null | .bool _ | .number _ => cell

end ColumnType
end ColumnChain
