import ColumnChain.Dataset
import ColumnChain.Delimited.Detection

/-!
# Loading delimited text

Delimited text as a dataset. The first record names the columns; every further record is
a row with a cell for each of them. Of columns with one name the first place and the
last cell count, so all rows have the same columns.
-/

namespace ColumnChain.Delimited

/-- How a text is loaded. -/
structure Options where
  /-- The delimiter; it is guessed if it is not given. -/
  delimiter : Option UInt8 := none
  /-- The most rows that are read. -/
  maxRows : Option Nat := none
  /-- Whether cells are coerced to the types of their columns. -/
  typed : Bool := false

/-- The texts of a record. -/
def decodeRecord (record : List Bytes) : Except Fault (List String) :=
  record.mapM fun field =>
    match Text.decode? field with
    | some text => .ok text
    | none => .error .malformedTable

/-- The row of a record; fields that are missing are empty. -/
def rowOf (headers : List String) (fields : List String) : Row :=
  Row.ofPairs (headers.mapIdx fun place header =>
    (header, Cell.ofField (fields.getD place "")))

/-- As many of the records as there may be rows. -/
def limited {α : Type} (options : Options) (records : List α) : List α :=
  match options.maxRows with
  | none => records
  | some most => records.take most

/-- The dataset of a text with a known delimiter. -/
def loadWith (options : Options) (id : String) (bytes : Bytes) (delimiter : UInt8) :
    Except Fault Dataset := do
  let (first, others) := match records delimiter bytes with
    | [] => ([], [])
    | first :: others => (first, others)
  let headers ← decodeRecord first
  if headers.all String.isEmpty then throw .noColumns
  let rows ← (limited options others).mapM fun record =>
    return rowOf headers (← decodeRecord record)
  if rows.isEmpty then throw .noRows
  let dataset := Dataset.ofRows id rows
  return if options.typed then dataset.typed else dataset

/-- The delimiter a text is loaded with. -/
def delimiterOf (options : Options) (bytes : Bytes) : Except Fault UInt8 :=
  match options.delimiter with
  | some delimiter => .ok delimiter
  | none => detect bytes

/-- The dataset of a text. -/
def load (options : Options) (id : String) (bytes : Bytes) : Except Fault Dataset := do
  loadWith options id bytes (← delimiterOf options bytes)

end ColumnChain.Delimited
