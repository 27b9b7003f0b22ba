import ColumnChain.Delimited.Records
import ColumnChain.Row

/-!
# Writing delimited text

Rows as delimited text, one line for each, after a line of column names. A field is put
in quotes when it would be read differently without them: when it holds the delimiter, a
quote or the end of a line. A line that would have no byte is written as an empty quoted
field, since lines without a byte are passed over.
-/

namespace ColumnChain.Delimited

/-- Whether a field has to be quoted. -/
def needsQuotes (delimiter : UInt8) (field : Bytes) : Bool :=
  field.any fun b => b == delimiter || b == quote || endsLine b

/-- The field with its quotes doubled. -/
def doubled (field : Bytes) : Bytes :=
  field.flatMap fun b => if b = quote then [quote, quote] else [b]

/-- A field as it is written. -/
def writeField (delimiter : UInt8) (field : Bytes) : Bytes :=
  if needsQuotes delimiter field then quote :: (doubled field ++ [quote]) else field

/-- A record as a line. -/
def writeRecord (delimiter : UInt8) (fields : List Bytes) : Bytes :=
  let line := [delimiter].intercalate (fields.map (writeField delimiter))
  (if line.isEmpty then [quote, quote] else line) ++ [Text.byte '\n']

/-- The fields of a row under some columns; a cell that is missing is an empty field. -/
def fieldsOf (columns : List String) (row : Row) : List String :=
  columns.map fun column => (Row.get row column).toText

/-- Rows as delimited text. -/
def write (columns : List String) (rows : List Row) (delimiter : UInt8) : Bytes :=
  (columns :: rows.map (fieldsOf columns)).flatMap fun fields =>
    writeRecord delimiter (fields.map Text.encode)

end ColumnChain.Delimited
