import ColumnChain.Cell
import ColumnChain.Keyed

/-!
# Rows

A row gives cells to column names, in column order. A column that a row does not have
reads as an empty cell.
-/

namespace ColumnChain

/-- The cells of a row by column name, in column order. -/
abbrev Row := Keyed (String × Cell) Prod.fst

namespace Row

/-- A row of pairs; of a repeated name the first place and the last cell count. -/
def ofPairs (pairs : List (String × Cell)) : Row :=
  Keyed.ofList pairs

/-- The row with a single column. -/
def single (column : String) (cell : Cell) : Row :=
  ⟨[(column, cell)], by simp⟩

/-- The cell of a column, if the row has the column. -/
def get? (row : Row) (column : String) : Option Cell :=
  (row.find? column).map Prod.snd

/-- The cell of a column; empty when the row does not have the column. -/
def get (row : Row) (column : String) : Cell :=
  (row.get? column).getD .null

/-- Set the cell of a column; a new column goes to the end. -/
def set (row : Row) (column : String) (cell : Cell) : Row :=
  row.put (column, cell)

end Row
end ColumnChain
