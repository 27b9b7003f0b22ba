import ColumnChain.ColumnType
import ColumnChain.Store

/-!
# Datasets

Rows with a name, and the columns that occur in them. Columns come in the order in which
their names first occur, and each has the narrowest type that its cells fit. A dataset
is only read from: the chains of its columns derive new rows.
-/

namespace ColumnChain

/-- A column by name and type. -/
structure Column where
  name : String
  type : ColumnType
  deriving DecidableEq

/-- The file that a dataset comes from. -/
structure Source where
  /-- The name of the file alone. -/
  file : String
  path : String
  /-- The digest of the contents, with the name of its method. -/
  hash : String
  size : Nat
  /-- The name of the form of the contents. -/
  format : String
  loaded : Instant
  deriving DecidableEq

/-- Rows with a name and a schema. -/
structure Dataset where
  id : String
  columns : List Column
  rows : List Row
  source : Option Source

namespace Dataset

/-- Add the names that are new, in order. -/
def addNames (names : List String) (more : List String) : List String :=
  more.foldl (fun names name => if names.contains name then names else names ++ [name]) names

/-- The column names of rows, in the order in which they first occur. -/
def namesOf (rows : List Row) : List String :=
  rows.foldl (fun names row => addNames names row.keys) []

/-- The dataset of some rows. -/
def ofRows (id : String) (rows : List Row) : Dataset where
  id
  columns := (namesOf rows).map fun name =>
    ⟨name, ColumnType.infer (rows.filterMap fun row => Row.get? row name)⟩
  rows
  source := none

/-- The column names, in order. -/
def columnNames (dataset : Dataset) : List String :=
  dataset.columns.map Column.name

/-- The column with a name. -/
def column? (dataset : Dataset) (name : String) : Option Column :=
  dataset.columns.find? fun column => column.name == name

/-- Whether there is a column of this name. -/
def hasColumn (dataset : Dataset) (name : String) : Bool :=
  (dataset.column? name).isSome

/-- The cells of a column, one for each row. -/
def cells (dataset : Dataset) (name : String) : List Cell :=
  dataset.rows.map fun row => Row.get row name

/-- The first cells of a column that are not blank. -/
def sampleCells (dataset : Dataset) (name : String) (limit : Nat) : List Cell :=
  ((dataset.cells name).filter fun cell => !cell.isBlank).take limit

/-- The rows with their text cells coerced to the types of their columns. -/
def typed (dataset : Dataset) : Dataset :=
  let type (name : String) := ((dataset.column? name).map Column.type).getD .unknown
  { dataset with
    rows := dataset.rows.map fun row =>
      row.mapEntries (fun (name, cell) => (name, (type name).coerce cell)) fun _ => rfl }

/-- The rows derived by all the chains of a dataset. The chain of a column sees what
those of the columns before it have derived. -/
def derive (dataset : Dataset) (store : Store) (engine : Engine) (draws : Draws) :
    List Row :=
  store.applyColumns engine draws dataset.id 0 dataset.columnNames dataset.rows

end Dataset
end ColumnChain
